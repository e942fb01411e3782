import TeraCore.DungeonFinding.Announce

/-!
# The state of a group in a role check

A group that wants to join holds a role check: the store has an entry for it, and the group's record
says so.  The role check ends when all players have selected a role, when one selects none, when
somebody leaves, or when it takes too long.

Three of these ends go through `UpdateRoleCheck`, which updates the group, its players and the
store together.  A role check that takes too long is removed by `Update`, which clears the players'
states and forgets the group's: the group stays in a role check that is not there.  A queued player
who leaves has the group's state restored, whatever it is.

## Main results

* `LFGMgr.updateRoleCheck_ends`: what an answer does
* `LFGMgr.joinLfg_cases`: joining creates a role check that the player answers, or none
* `LFGMgr.roleChecksMatch_run`: both hold in every run that meets the condition
-/

namespace TeraCore

open Commons OrderedMap

namespace LFGMgr

/-! ## The operations -/

variable (env : MgrEnv) (gguid : Guid) (req : JoinRequest) (check : JoinCheck) (isContinue : Bool)
  (s : LFGMgr)

/-- The first half of a group's `JoinLfg`: the role check is created, before the player who joins
answers it. -/
def openRoleCheck : LFGMgr :=
  let members := (s.getPlayers gguid).elems.filter env.findPlayer
  let roleCheck : LfgRoleCheck :=
    { cancelTime := env.now + 40 * 1000
      roles := members.foldl (fun roles pguid => roles.set pguid playerRoleNone)
        (s.roleChecks.get gguid).roles
      state := .initialiting
      dungeons := check.dungeons
      rDungeonId := check.rDungeonId
      leader := req.player }
  let dungeons :=
    if check.rDungeonId ≠ 0 then OrderedSet.ofList [check.rDungeonId] else check.dungeons
  let s := { s with roleChecks := s.roleChecks.set gguid roleCheck }
  let s := s.setState gguid .rolecheck
  members.foldl (fun s pguid =>
    let s := s.setState pguid .rolecheck
    if isContinue then s else s.setSelectedDungeons pguid dungeons) s

theorem beginRoleCheck_eq :
    s.beginRoleCheck env gguid req check isContinue =
      (s.openRoleCheck env gguid req check isContinue).updateRoleCheck env gguid req.player
        req.roles := rfl

/-- The dungeon finder after a player joined with the group and before they answered the role
check, if it comes to that. -/
def joinRoleCheck (env : MgrEnv) (req : JoinRequest) (s : LFGMgr) : Option LFGMgr :=
  if req.dungeons.elems = [] ∨ s.joinedAlready req then none
  else
    let check := s.joinCheck env req
    if check.result ≠ .ok ∨ check.isRaid ∨ s.getGroup req.player = 0 then none
    else
      let gguid := s.joinGuid req.player
      let s' :=
        if s.getState gguid = .queued then s.updateQueue (s.queueId gguid) (·.removeFromQueue gguid)
        else s
      some (s'.openRoleCheck env gguid req check (s.isContinue req.player))

/-- What begins and ends role checks.  Answers come from players, or from nobody. -/
inductive RoleCheckOp where
  | joinLfg (env : MgrEnv) (req : JoinRequest)
  | updateRoleCheck (env : MgrEnv) (gguid guid : Guid) (isPlayer : isGroup guid = false)
      (roles : LfgRoles)
  | leaveLfg (env : MgrEnv) (guid : Guid)
  | removeOldRoleChecks (now : ℕ)

def roleCheckStep (s : LFGMgr) : RoleCheckOp → LFGMgr
  | .joinLfg env req => (s.joinLfg env req).2
  | .updateRoleCheck env gguid guid _ roles => s.updateRoleCheck env gguid guid roles
  | .leaveLfg env guid => s.leaveLfg env guid
  | .removeOldRoleChecks now => s.roleChecks.entries.foldl (removeOldRoleCheck now) s

/-! ## The ends of role checks -/

/-- The role check that an answer ends, as it is then. -/
def endedBy (s : LFGMgr) (gguid guid : Guid) (roles : LfgRoles) : Option LfgRoleCheck :=
  if gguid = 0 then none
  else
    ((s.roleChecks.find? gguid).map fun roleCheck => answerRoleCheck roleCheck guid roles).filter
      fun roleCheck => roleCheck.state ≠ .initialiting

/-- The role checks an operation ends. -/
def endedRoleChecks (s : LFGMgr) : RoleCheckOp → List (Guid × LfgRoleCheck)
  | .joinLfg env req =>
    ((s.joinRoleCheck env req).bind fun opened =>
      (opened.endedBy (s.joinGuid req.player) req.player req.roles).map
        fun roleCheck => (s.joinGuid req.player, roleCheck)).toList
  | .updateRoleCheck _ gguid guid _ roles =>
    ((s.endedBy gguid guid roles).map fun roleCheck => (gguid, roleCheck)).toList
  | .leaveLfg _ guid =>
    let gguid := if isGroup guid then guid else s.getGroup guid
    if s.getState guid = .rolecheck then
      ((s.endedBy gguid 0 playerRoleNone).map fun roleCheck => (gguid, roleCheck)).toList
    else []
  | .removeOldRoleChecks now =>
    (s.roleChecks.entries.filter fun e => e.2.cancelTime ≤ now).map
      fun e => (e.1, { e.2 with state := .missingRole })

/-- **A group's record and the store agree**: the group is in a role check exactly when there is
one for it. -/
def RoleChecksMatch (s : LFGMgr) : Prop :=
  ∀ gguid, isGroup gguid = true →
    (s.getState gguid = .rolecheck ↔ s.roleChecks.contains gguid = true)

/-- **A role check that fails leaves nothing behind**: the group is back in its old state, and so
is every player who is listed, with no roles and no dungeons selected. -/
structure EndsWell (s : LFGMgr) (op : RoleCheckOp) : Prop where
  listed : ∀ gguid, s.roleChecks.contains gguid = true →
    (s.roleCheckStep op).roleChecks.contains gguid = false →
    ∃ roleCheck, (gguid, roleCheck) ∈ s.endedRoleChecks op
  erased : ∀ e ∈ s.endedRoleChecks op, (s.roleCheckStep op).roleChecks.contains e.1 = false
  restored : ∀ e ∈ s.endedRoleChecks op, e.2.state ≠ .finished →
    ((s.roleCheckStep op).groups e.1).state = (s.groups e.1).oldState
  cleared : ∀ e ∈ s.endedRoleChecks op, e.2.state ≠ .finished → ∀ p ∈ e.2.roles.keys,
    ((s.roleCheckStep op).players p).state = (s.players p).oldState ∧
      ((s.roleCheckStep op).players p).roles = playerRoleNone ∧
      ((s.roleCheckStep op).players p).selectedDungeons = OrderedSet.empty

/-- **The condition on an operation**: no role check takes too long, and a queued player who leaves
has no group in a role check. -/
def RoleCheckKept (s : LFGMgr) : RoleCheckOp → Prop
  | .removeOldRoleChecks now => ∀ e ∈ s.roleChecks.entries, now < e.2.cancelTime
  | .leaveLfg _ guid => isGroup guid = false → s.getState guid = .queued → s.getGroup guid ≠ 0 →
      s.getState (s.getGroup guid) ≠ .rolecheck
  | .joinLfg .. | .updateRoleCheck .. => True

instance (s : LFGMgr) (op : RoleCheckOp) : Decidable (s.RoleCheckKept op) := by
  cases op <;> dsimp only [RoleCheckKept] <;> infer_instance

/-! ## Who is in which group -/

structure SameMembers (s s' : LFGMgr) : Prop where
  group : ∀ p, s'.getGroup p = s.getGroup p
  members : ∀ g, s'.getPlayers g = s.getPlayers g
  proposals : s'.proposals = s.proposals

variable {s} {s' s'' : LFGMgr} {gguid} {guid : Guid}

theorem SameMembers.trans (h : s.SameMembers s') (h' : s'.SameMembers s'') : s.SameMembers s'' where
  group p := (h'.group p).trans (h.group p)
  members g := (h'.members g).trans (h.members g)
  proposals := h'.proposals.trans h.proposals

/-! ## The groups and players after a loop -/

theorem setState_groups (h : isGroup guid = false) (state : LfgState) :
    (s.setState guid state).groups = s.groups := by
  simp [setState, h]

theorem foldl_groups {α : Type*} {f : LFGMgr → α → LFGMgr} {l : List α}
    (h : ∀ s, ∀ a ∈ l, (f s a).groups = s.groups) (s : LFGMgr) :
    (l.foldl f s).groups = s.groups :=
  foldl_invariant (fun s' => s'.groups = s.groups) (fun s' a ha hs' => (h s' a ha).trans hs') rfl

theorem foldl_clearState_players (l : List Guid) (s : LFGMgr) (p : Guid) :
    (l.foldl clearState s).players p =
      if p ∈ l then (s.players p).clearState else s.players p := by
  induction l generalizing s with
  | nil => rfl
  | cons guid l ih =>
    have hone : (s.clearState guid).players p =
        if p = guid then (s.players guid).clearState else s.players p := updatePlayer_players s _ p
    rw [List.foldl_cons, ih, hone]
    by_cases hp : p = guid
    · subst hp
      rw [if_pos rfl, if_pos List.mem_cons_self]
      split_ifs <;> rfl
    · simp [hp]

/-! ## One answer -/

/-- A role check that is finished: the group joins the queue. -/
def finishRoleCheck (env : MgrEnv) (gguid : Guid) (roleCheck : LfgRoleCheck) (s : LFGMgr) :
    LFGMgr :=
  let s := roleCheck.roles.entries.foldl
    (fun s e => (s.setState e.1 .queued).setRoles e.1 e.2) s
  let s := s.setState gguid .queued
  let s := s.updateQueue (s.queueId gguid)
    (·.addQueueData gguid env.now roleCheck.dungeons roleCheck.roles)
  { s with roleChecks := s.roleChecks.erase gguid }

/-- A role check that has failed: the players and the group go back. -/
def failRoleCheck (gguid : Guid) (roleCheck : LfgRoleCheck) (s : LFGMgr) : LFGMgr :=
  let s := roleCheck.roles.keys.foldl clearState s
  let s := s.restoreState gguid
  { s with roleChecks := s.roleChecks.erase gguid }

theorem updateRoleCheck_of_endedBy {roles : LfgRoles} {roleCheck : LfgRoleCheck}
    (h : s.endedBy gguid guid roles = some roleCheck) (env : MgrEnv) :
    s.roleChecks.contains gguid = true ∧
      s.updateRoleCheck env gguid guid roles =
        if roleCheck.state = .finished then s.finishRoleCheck env gguid roleCheck
        else s.failRoleCheck gguid roleCheck := by
  unfold endedBy at h
  split_ifs at h with hzero
  rw [Option.filter_eq_some_iff, Option.map_eq_some_iff] at h
  obtain ⟨⟨stored, hstored, rfl⟩, hstate⟩ := h
  refine ⟨contains_iff.mpr ⟨stored, hstored⟩, ?_⟩
  have hopen : (answerRoleCheck stored guid roles).state ≠ .initialiting := by simpa using hstate
  unfold updateRoleCheck
  rw [if_neg hzero, hstored]
  dsimp only
  cases hfinal : (answerRoleCheck stored guid roles).state with
  | initialiting => exact absurd hfinal hopen
  | finished => rfl
  | _ => rfl

theorem updateRoleCheck_of_none {roles : LfgRoles} (h : s.endedBy gguid guid roles = none)
    (env : MgrEnv) :
    s.updateRoleCheck env gguid guid roles = s ∨
      ∃ stored, s.roleChecks.find? gguid = some stored ∧
        s.updateRoleCheck env gguid guid roles =
          { s with roleChecks := s.roleChecks.set gguid (answerRoleCheck stored guid roles) } := by
  unfold endedBy at h
  unfold updateRoleCheck
  by_cases hzero : gguid = 0
  · exact .inl (if_pos hzero)
  · rw [if_neg hzero] at h ⊢
    cases hstored : s.roleChecks.find? gguid with
    | none => exact .inl rfl
    | some stored =>
      rw [hstored] at h
      have hopen : (answerRoleCheck stored guid roles).state = .initialiting := by
        simpa using h
      exact .inr ⟨stored, rfl, by simp only [hopen]⟩

/-- The players who are listed after an answer: those who were, and the one who answered. -/
theorem mem_keys_answerRoleCheck {roleCheck : LfgRoleCheck} {roles : LfgRoles} {p : Guid}
    (h : p ∈ (answerRoleCheck roleCheck guid roles).roles.keys) :
    p ∈ roleCheck.roles.keys ∨ p = guid := by
  have hset : p ∈ (roleCheck.roles.set guid roles).keys → p ∈ roleCheck.roles.keys ∨ p = guid := by
    intro hmem
    obtain ⟨v, hv⟩ := mem_keys.mp hmem
    rw [find?_set] at hv
    split_ifs at hv with hp
    · exact .inr hp
    · exact .inl (mem_keys.mpr ⟨v, hv⟩)
  unfold answerRoleCheck at h
  dsimp only at h
  split_ifs at h
  · exact .inl h
  · exact .inl h
  · exact hset h
  · exact hset h
  · exact hset h

theorem failRoleCheck_spec (gguid : Guid) (roleCheck : LfgRoleCheck) (s : LFGMgr) :
    s.SameMembers (s.failRoleCheck gguid roleCheck) ∧
      (s.failRoleCheck gguid roleCheck).roleChecks = s.roleChecks.erase gguid ∧
      (∀ g, (s.failRoleCheck gguid roleCheck).groups g =
        if g = gguid then (s.groups gguid).restoreState else s.groups g) ∧
      ∀ p ∈ roleCheck.roles.keys,
        (s.failRoleCheck gguid roleCheck).players p = (s.players p).clearState := by
  have hclear := Restated.foldl Restated.clearState roleCheck.roles.keys s
  have hrestored := hclear.trans (Restated.restoreState _ gguid)
  have hgroups : (roleCheck.roles.keys.foldl clearState s).groups = s.groups :=
    foldl_groups (fun s p _ => show (s.clearState p).groups = s.groups from rfl) s
  refine ⟨⟨hrestored.group, hrestored.members, hrestored.proposals⟩,
    congrArg (OrderedMap.erase · gguid) hrestored.roleChecks, fun g => ?_, fun p hp => ?_⟩
  · change ((roleCheck.roles.keys.foldl clearState s).updateGroup gguid (·.restoreState)).groups g
      = _
    rw [updateGroup_groups, hgroups]
  · have hplayers := foldl_clearState_players roleCheck.roles.keys s p
    rw [if_pos hp] at hplayers
    exact hplayers

theorem finishRoleCheck_spec (env : MgrEnv) (hgroup : isGroup gguid = true)
    {roleCheck : LfgRoleCheck} (hplayers : ∀ p ∈ roleCheck.roles.keys, isGroup p = false) :
    s.SameMembers (s.finishRoleCheck env gguid roleCheck) ∧
      (s.finishRoleCheck env gguid roleCheck).roleChecks = s.roleChecks.erase gguid ∧
      ∀ g, (s.finishRoleCheck env gguid roleCheck).groups g =
        if g = gguid then (s.groups gguid).setState .queued else s.groups g := by
  have hone : ∀ (s : LFGMgr) (e : Guid × LfgRoles),
      Restated s ((s.setState e.1 .queued).setRoles e.1 e.2) := fun s e =>
    (Restated.setState s e.1 _).trans (Restated.setRoles _ e.1 _)
  have hrestated := (Restated.foldl hone roleCheck.roles.entries s).trans
    (Restated.setState _ gguid .queued)
  have hgroups : (roleCheck.roles.entries.foldl
      (fun s e => (s.setState e.1 .queued).setRoles e.1 e.2) s).groups = s.groups :=
    foldl_groups (fun s e he => setState_groups
      (hplayers e.1 (List.mem_map_of_mem he)) .queued) s
  refine ⟨⟨hrestated.group, hrestated.members, hrestated.proposals⟩,
    congrArg (OrderedMap.erase · gguid) hrestated.roleChecks, fun g => ?_⟩
  change ((setState _ gguid .queued).groups g) = _
  rw [setState, if_pos hgroup, updateGroup_groups, hgroups]

/-! ## The invariant -/

/-- **The dungeon finder before a run**: nobody is in a role check or a proposal, groups consist of
players, and players are in groups. -/
structure AtRest (s : LFGMgr) : Prop where
  noRoleChecks : s.roleChecks = OrderedMap.empty
  noProposals : s.proposals.store.entries = []
  state : ∀ g, (s.groups g).state ≠ .rolecheck
  oldState : ∀ g, (s.groups g).oldState ≠ .rolecheck
  members : ∀ g, ∀ p ∈ s.getPlayers g, isGroup p = false
  group : ∀ p, s.getGroup p = 0 ∨ isGroup (s.getGroup p) = true

/-- The invariant. -/
structure RoleCheckInv (s : LFGMgr) : Prop where
  matching : s.RoleChecksMatch
  ofGroup : ∀ g, s.roleChecks.contains g = true → isGroup g = true
  listed : ∀ g roleCheck, s.roleChecks.find? g = some roleCheck →
    ∀ p ∈ roleCheck.roles.keys, isGroup p = false
  oldState : ∀ g, (s.groups g).oldState ≠ .rolecheck
  noProposals : s.proposals.store.entries = []
  members : ∀ g, ∀ p ∈ s.getPlayers g, isGroup p = false
  group : ∀ p, s.getGroup p = 0 ∨ isGroup (s.getGroup p) = true

theorem AtRest.inv (h : s.AtRest) : s.RoleCheckInv where
  matching g hg := by
    simp [h.noRoleChecks, OrderedMap.contains, getState, hg, h.state g]
  ofGroup g hg := by simp [h.noRoleChecks, OrderedMap.contains] at hg
  listed g roleCheck hg := by simp [h.noRoleChecks] at hg
  oldState := h.oldState
  noProposals := h.noProposals
  members := h.members
  group := h.group

namespace RoleCheckInv

theorem change (h : s.RoleCheckInv) (hgroup : isGroup gguid = true) (hm : s.SameMembers s')
    (hchecks : ∀ g ≠ gguid, s'.roleChecks.find? g = s.roleChecks.find? g)
    (hgroups : ∀ g ≠ gguid, s'.groups g = s.groups g)
    (hmatch : (s'.groups gguid).state = .rolecheck ↔ s'.roleChecks.contains gguid = true)
    (hold : (s'.groups gguid).oldState ≠ .rolecheck)
    (hlisted : ∀ roleCheck, s'.roleChecks.find? gguid = some roleCheck →
      ∀ p ∈ roleCheck.roles.keys, isGroup p = false) : s'.RoleCheckInv where
  matching g hg := by
    by_cases hne : g = gguid
    · subst hne
      rw [getState, if_pos hg]
      exact hmatch
    · have hold := h.matching g hg
      rw [getState, if_pos hg] at hold ⊢
      rw [hgroups g hne, OrderedMap.contains, hchecks g hne]
      exact hold
  ofGroup g hg := by
    by_cases hne : g = gguid
    · rw [hne, hgroup]
    · rw [OrderedMap.contains, hchecks g hne] at hg
      exact h.ofGroup g hg
  listed g roleCheck hg := by
    by_cases hne : g = gguid
    · subst hne
      exact hlisted roleCheck hg
    · rw [hchecks g hne] at hg
      exact h.listed g roleCheck hg
  oldState g := by
    by_cases hne : g = gguid
    · rw [hne]
      exact hold
    · rw [hgroups g hne]
      exact h.oldState g
  noProposals := by rw [hm.proposals]; exact h.noProposals
  members g p hp := h.members g p (by rwa [hm.members] at hp)
  group p := by rw [hm.group]; exact h.group p

theorem congr (h : s.RoleCheckInv) (hm : s.SameMembers s') (hchecks : s'.roleChecks = s.roleChecks)
    (hgroups : s'.groups = s.groups) : s'.RoleCheckInv where
  matching g hg := by
    have hmatch := h.matching g hg
    rw [getState, if_pos hg] at hmatch ⊢
    rwa [hgroups, hchecks]
  ofGroup g hg := h.ofGroup g (by rwa [hchecks] at hg)
  listed g roleCheck hg := h.listed g roleCheck (by rwa [hchecks] at hg)
  oldState g := by rw [hgroups]; exact h.oldState g
  noProposals := by rw [hm.proposals]; exact h.noProposals
  members g p hp := h.members g p (by rwa [hm.members] at hp)
  group p := by rw [hm.group]; exact h.group p

theorem listed_endedBy (h : s.RoleCheckInv) (hplayer : isGroup guid = false) {roles : LfgRoles}
    {roleCheck : LfgRoleCheck} (hended : s.endedBy gguid guid roles = some roleCheck) :
    ∀ p ∈ roleCheck.roles.keys, isGroup p = false := by
  unfold endedBy at hended
  split_ifs at hended
  rw [Option.filter_eq_some_iff, Option.map_eq_some_iff] at hended
  obtain ⟨⟨stored, hstored, rfl⟩, -⟩ := hended
  intro p hp
  rcases mem_keys_answerRoleCheck hp with hp | rfl
  · exact h.listed gguid stored hstored p hp
  · exact hplayer

/-- **An answer** keeps the invariant. -/
theorem updateRoleCheck (h : s.RoleCheckInv) (hplayer : isGroup guid = false) (env : MgrEnv)
    (gguid : Guid) (roles : LfgRoles) : (s.updateRoleCheck env gguid guid roles).RoleCheckInv := by
  cases hended : s.endedBy gguid guid roles with
  | none =>
    rcases updateRoleCheck_of_none hended env with heq | ⟨stored, hstored, heq⟩
    · rwa [heq]
    · have hcontains : s.roleChecks.contains gguid = true :=
        contains_iff.mpr ⟨stored, hstored⟩
      have hgroup := h.ofGroup gguid hcontains
      have hmatch := h.matching gguid hgroup
      rw [getState, if_pos hgroup] at hmatch
      rw [heq]
      refine h.change hgroup ⟨fun _ => rfl, fun _ => rfl, rfl⟩
        (fun g hne => find?_set_of_ne _ _ hne) (fun _ _ => rfl) ?_ (h.oldState gguid) ?_
      · simp [OrderedMap.contains, hmatch.mpr hcontains]
      · intro roleCheck hroleCheck p hp
        rw [find?_set_self] at hroleCheck
        cases hroleCheck
        rcases mem_keys_answerRoleCheck hp with hp | rfl
        · exact h.listed gguid stored hstored p hp
        · exact hplayer
  | some roleCheck =>
    obtain ⟨hcontains, heq⟩ := updateRoleCheck_of_endedBy hended env
    have hgroup := h.ofGroup gguid hcontains
    have hlisted := h.listed_endedBy hplayer hended
    rw [heq]
    split_ifs
    · obtain ⟨hm, hchecks, hgroups⟩ := finishRoleCheck_spec (s := s) env hgroup hlisted
      refine h.change hgroup hm (fun g hne => ?_) (fun g hne => ?_) ?_ ?_ ?_
      · rw [hchecks, find?_erase_of_ne _ hne]
      · rw [hgroups, if_neg hne]
      · rw [hgroups, if_pos rfl, hchecks]
        simp [LfgGroupData.setState, OrderedMap.contains]
      · rw [hgroups, if_pos rfl]
        exact h.oldState gguid
      · simp [hchecks]
    · obtain ⟨hm, hchecks, hgroups, -⟩ := failRoleCheck_spec gguid roleCheck s
      refine h.change hgroup hm (fun g hne => ?_) (fun g hne => ?_) ?_ ?_ ?_
      · rw [hchecks, find?_erase_of_ne _ hne]
      · rw [hgroups, if_neg hne]
      · rw [hgroups, if_pos rfl, hchecks]
        simp [LfgGroupData.restoreState, OrderedMap.contains, h.oldState gguid]
      · rw [hgroups, if_pos rfl]
        exact h.oldState gguid
      · simp [hchecks]

end RoleCheckInv

/-! ## Joining -/

theorem mem_keys_foldl_set {members : List Guid} {roles : LfgRolesMap} {p : Guid}
    (h : p ∈ (members.foldl (fun roles pguid => roles.set pguid playerRoleNone) roles).keys) :
    p ∈ roles.keys ∨ p ∈ members := by
  induction members generalizing roles with
  | nil => exact .inl h
  | cons guid members ih =>
    rcases ih h with hp | hp
    · obtain ⟨v, hv⟩ := mem_keys.mp hp
      rw [find?_set] at hv
      split_ifs at hv with heq
      · exact .inr (heq ▸ List.mem_cons_self)
      · exact .inl (mem_keys.mpr ⟨v, hv⟩)
    · exact .inr (List.mem_cons_of_mem _ hp)

/-- **A role check is created**, record by record. -/
theorem openRoleCheck_spec (env : MgrEnv) (hgroup : isGroup gguid = true)
    (hmembers : ∀ p ∈ s.getPlayers gguid, isGroup p = false) (req : JoinRequest)
    (check : JoinCheck) (isContinue : Bool) :
    s.SameMembers (s.openRoleCheck env gguid req check isContinue) ∧
      (∃ roleCheck, (s.openRoleCheck env gguid req check isContinue).roleChecks =
          s.roleChecks.set gguid roleCheck ∧
        ∀ p ∈ roleCheck.roles.keys, p ∈ (s.roleChecks.get gguid).roles.keys ∨
          p ∈ s.getPlayers gguid) ∧
      (∀ g, (s.openRoleCheck env gguid req check isContinue).groups g =
        if g = gguid then (s.groups gguid).setState .rolecheck else s.groups g) ∧
      ∀ p, ((s.openRoleCheck env gguid req check isContinue).players p).oldState =
        (s.players p).oldState := by
  let members := (s.getPlayers gguid).elems.filter env.findPlayer
  let dungeons :=
    if check.rDungeonId ≠ 0 then OrderedSet.ofList [check.rDungeonId] else check.dungeons
  let turn (s : LFGMgr) (pguid : Guid) : LFGMgr :=
    let s := s.setState pguid .rolecheck
    if isContinue then s else s.setSelectedDungeons pguid dungeons
  have hplayer : ∀ p ∈ members, isGroup p = false := fun p hp =>
    hmembers p (List.mem_of_mem_filter hp)
  have hrestated : ∀ (s : LFGMgr) (p : Guid), Restated s (turn s p) := by
    intro s p
    dsimp only [turn]
    split_ifs
    · exact Restated.setState s p _
    · exact (Restated.setState s p _).trans (Restated.setSelectedDungeons _ p _)
  have hturnGroups : ∀ (s : LFGMgr), ∀ p ∈ members, (turn s p).groups = s.groups := by
    intro s p hp
    dsimp only [turn]
    split_ifs
    · exact setState_groups (hplayer p hp) _
    · exact setState_groups (hplayer p hp) _
  have hturnOld : ∀ (s : LFGMgr), ∀ p ∈ members, ∀ j,
      ((turn s p).players j).oldState = (s.players j).oldState := by
    intro s p hp j
    have hset : ((s.setState p .rolecheck).players j).oldState = (s.players j).oldState := by
      rw [setState, if_neg (by simp [hplayer p hp]), updatePlayer_players]
      split_ifs with hj
      · rw [hj]
        rfl
      · rfl
    dsimp only [turn]
    split_ifs
    · exact hset
    · rw [setSelectedDungeons, updatePlayer_players]
      split_ifs with hj
      · rw [← hset, hj]
      · exact hset
  let created : LfgRoleCheck :=
    { cancelTime := env.now + 40 * 1000
      roles := members.foldl (fun roles pguid => roles.set pguid playerRoleNone)
        (s.roleChecks.get gguid).roles
      state := .initialiting
      dungeons := check.dungeons
      rDungeonId := check.rDungeonId
      leader := req.player }
  let entered : LFGMgr := { s with roleChecks := s.roleChecks.set gguid created }
  have heq : s.openRoleCheck env gguid req check isContinue =
      members.foldl turn (entered.setState gguid .rolecheck) := rfl
  have hloop := (Restated.setState entered gguid .rolecheck).trans
    (Restated.foldl hrestated members _)
  rw [heq]
  refine ⟨⟨hloop.group, hloop.members, hloop.proposals⟩, ⟨created, hloop.roleChecks, ?_⟩,
    fun g => ?_, fun p => ?_⟩
  · intro p hp
    rcases mem_keys_foldl_set hp with hp | hp
    · exact .inl hp
    · exact .inr (List.mem_of_mem_filter hp)
  · rw [foldl_groups hturnGroups, setState, if_pos hgroup, updateGroup_groups]
  · have hfold : ((members.foldl turn (entered.setState gguid .rolecheck)).players p).oldState =
        ((entered.setState gguid .rolecheck).players p).oldState :=
      foldl_invariant (fun s' => (s'.players p).oldState =
        ((entered.setState gguid .rolecheck).players p).oldState)
        (fun s' a ha hs' => (hturnOld s' a ha p).trans hs') rfl
    rw [hfold, setState, if_pos hgroup]
    rfl

theorem joinQueue_spec (env : MgrEnv) (req : JoinRequest) (check : JoinCheck) (s : LFGMgr) :
    s.SameMembers (s.joinQueue env req check) ∧
      (s.joinQueue env req check).roleChecks = s.roleChecks ∧
      (s.joinQueue env req check).groups = s.groups := by
  let queued := s.updateQueue (s.queueId req.player)
    (·.addQueueData req.player env.now check.dungeons (OrderedMap.empty.set req.player req.roles))
  let dungeons :=
    if check.rDungeonId ≠ 0 then OrderedSet.ofList [check.rDungeonId] else check.dungeons
  have hrestated : Restated queued (s.joinQueue env req check) :=
    ((Restated.setSelectedDungeons queued req.player dungeons).trans
      (Restated.setState _ req.player .queued)).trans (Restated.setRoles _ req.player req.roles)
  refine ⟨⟨hrestated.group, hrestated.members, hrestated.proposals⟩, hrestated.roleChecks, ?_⟩
  change ((queued.setSelectedDungeons req.player dungeons).setState req.player .queued).groups = _
  rw [setState_groups req.isPlayer]
  rfl

theorem joinLfg_cases (env : MgrEnv) (req : JoinRequest) (s : LFGMgr) :
    (∃ opened, s.joinRoleCheck env req = some opened ∧
      (s.joinLfg env req).2 =
        opened.updateRoleCheck env (s.joinGuid req.player) req.player req.roles) ∨
      (s.joinRoleCheck env req = none ∧ s.SameMembers (s.joinLfg env req).2 ∧
        (s.joinLfg env req).2.roleChecks = s.roleChecks ∧
        (s.joinLfg env req).2.groups = s.groups) := by
  have hself : s.SameMembers s := ⟨fun _ => rfl, fun _ => rfl, rfl⟩
  unfold joinLfg joinRoleCheck
  by_cases hempty : req.dungeons.elems = []
  · rw [if_pos hempty, if_pos (.inl hempty)]
    exact .inr ⟨rfl, hself, rfl, rfl⟩
  rw [if_neg hempty]
  by_cases hjoined : s.joinedAlready req = true
  · rw [if_pos hjoined, if_pos (.inr hjoined)]
    exact .inr ⟨rfl, hself, rfl, rfl⟩
  rw [if_neg hjoined, if_neg (not_or.mpr ⟨hempty, hjoined⟩)]
  -- Leaving the queue is not about records.
  have hqueue : ∀ (q : LFGQueue → LFGQueue) (team : ℕ) (c : Prop) [Decidable c],
      let s' := if c then s.updateQueue team q else s
      s.SameMembers s' ∧ s'.roleChecks = s.roleChecks ∧ s'.groups = s.groups := by
    intro q team c _
    split_ifs
    · exact ⟨⟨fun _ => rfl, fun _ => rfl, rfl⟩, rfl, rfl⟩
    · exact ⟨hself, rfl, rfl⟩
  by_cases hresult : (s.joinCheck env req).result ≠ .ok
  · rw [if_pos hresult, if_pos (.inl hresult)]
    exact .inr ⟨rfl, hqueue _ _ _⟩
  by_cases hraid : (s.joinCheck env req).isRaid = true
  · rw [if_neg hresult, if_pos hraid, if_pos (.inr (.inl hraid))]
    exact .inr ⟨rfl, hqueue _ _ _⟩
  by_cases hgroup : s.getGroup req.player = 0
  · rw [if_neg hresult, if_neg hraid, if_pos (.inr (.inr hgroup))]
    refine .inr ⟨rfl, ?_⟩
    have hq := hqueue (·.removeFromQueue (s.joinGuid req.player))
      (s.queueId (s.joinGuid req.player)) (s.getState (s.joinGuid req.player) = .queued)
    revert hq
    generalize (if s.getState (s.joinGuid req.player) = .queued then
      s.updateQueue (s.queueId (s.joinGuid req.player))
        (·.removeFromQueue (s.joinGuid req.player)) else s) = s'
    rintro ⟨hm, hchecks, hgroups⟩
    rw [if_neg (by rw [hm.group]; exact not_not.mpr hgroup)]
    obtain ⟨hm', hchecks', hgroups'⟩ := joinQueue_spec env req (s.joinCheck env req) s'
    exact ⟨hm.trans hm', hchecks'.trans hchecks, hgroups'.trans hgroups⟩
  · rw [if_neg hresult, if_neg hraid, if_neg (by simp [hresult, hraid, hgroup])]
    refine .inl ⟨_, rfl, ?_⟩
    have hq := hqueue (·.removeFromQueue (s.joinGuid req.player))
      (s.queueId (s.joinGuid req.player)) (s.getState (s.joinGuid req.player) = .queued)
    dsimp only at hq ⊢
    rw [if_pos (by rw [hq.1.group]; exact hgroup), beginRoleCheck_eq]

theorem joinRoleCheck_spec {env : MgrEnv} {req : JoinRequest} {opened : LFGMgr}
    (h : s.RoleCheckInv) (hopened : s.joinRoleCheck env req = some opened) :
    opened.RoleCheckInv ∧
      (∀ g, s.roleChecks.contains g = true → opened.roleChecks.contains g = true) ∧
      (opened.groups (s.joinGuid req.player)).oldState =
        (s.groups (s.joinGuid req.player)).oldState ∧
      ∀ p, (opened.players p).oldState = (s.players p).oldState := by
  unfold joinRoleCheck at hopened
  split_ifs at hopened with hrefused
  dsimp only at hopened
  by_cases hcheck : (s.joinCheck env req).result ≠ .ok ∨ (s.joinCheck env req).isRaid = true ∨
      s.getGroup req.player = 0
  · rw [if_pos hcheck] at hopened
    cases hopened
  rw [if_neg hcheck] at hopened
  have hmember : s.getGroup req.player ≠ 0 := fun hzero => hcheck (.inr (.inr hzero))
  have hgroup : isGroup (s.joinGuid req.player) = true := by
    rw [joinGuid, if_neg hmember]
    exact (h.group req.player).resolve_left hmember
  generalize hgguid : s.joinGuid req.player = gguid at hopened hgroup ⊢
  -- Leaving the queue is not about records.
  have hqueue : ∀ s', (s' = s ∨ ∃ team q, s' = s.updateQueue team q) →
      s.SameMembers s' ∧ s'.roleChecks = s.roleChecks ∧ s'.groups = s.groups ∧
        s'.players = s.players := by
    rintro s' (rfl | ⟨team, q, rfl⟩)
    · exact ⟨⟨fun _ => rfl, fun _ => rfl, rfl⟩, rfl, rfl, rfl⟩
    · exact ⟨⟨fun _ => rfl, fun _ => rfl, rfl⟩, rfl, rfl, rfl⟩
  obtain ⟨hm, hchecks, hgroups, hplayers⟩ := hqueue (if s.getState gguid = .queued then
    s.updateQueue (s.queueId gguid) (·.removeFromQueue gguid) else s) (by
      split_ifs
      · exact .inr ⟨_, _, rfl⟩
      · exact .inl rfl)
  generalize (if s.getState gguid = .queued then
    s.updateQueue (s.queueId gguid) (·.removeFromQueue gguid) else s) = s'
    at hopened hm hchecks hgroups hplayers
  have hs' : s'.RoleCheckInv := h.congr hm hchecks hgroups
  obtain ⟨hm', ⟨roleCheck, hcreated, hlisted⟩, hgroups', hold'⟩ := openRoleCheck_spec env hgroup
    (hs'.members gguid) req (s.joinCheck env req) (s.isContinue req.player)
  cases hopened
  refine ⟨hs'.change hgroup hm' (fun g hne => ?_) (fun g hne => ?_) ?_ ?_ ?_, fun g hg => ?_, ?_,
    fun p => by rw [hold' p, hplayers]⟩
  · rw [hcreated, find?_set_of_ne _ _ hne]
  · rw [hgroups', if_neg hne]
  · rw [hgroups', if_pos rfl, hcreated]
    simp [LfgGroupData.setState, OrderedMap.contains]
  · rw [hgroups', if_pos rfl]
    exact hs'.oldState gguid
  · intro created hfind p hp
    rw [hcreated, find?_set_self] at hfind
    cases hfind
    rcases hlisted p hp with hp | hp
    · cases hstored : s'.roleChecks.find? gguid with
      | none =>
        have hempty : s'.roleChecks.get gguid = default := by simp [OrderedMap.get, hstored]
        rw [hempty] at hp
        cases hp
      | some stored =>
        have hget : s'.roleChecks.get gguid = stored := by simp [OrderedMap.get, hstored]
        rw [hget] at hp
        exact hs'.listed gguid stored hstored p hp
    · exact hs'.members gguid p hp
  · rw [hcreated, OrderedMap.contains, find?_set]
    split_ifs
    · rfl
    · rw [hchecks]
      exact hg
  · rw [hgroups', if_pos rfl, ← hgroups]
    rfl

/-! ## The ends -/

theorem updateRoleCheck_ends (h : s.RoleCheckInv) (hplayer : isGroup guid = false) (env : MgrEnv)
    (gguid : Guid) (roles : LfgRoles) :
    (∀ g, s.roleChecks.contains g = true →
        (s.updateRoleCheck env gguid guid roles).roleChecks.contains g = false →
        g = gguid ∧ ∃ roleCheck, s.endedBy gguid guid roles = some roleCheck) ∧
      ∀ roleCheck, s.endedBy gguid guid roles = some roleCheck →
        (s.updateRoleCheck env gguid guid roles).roleChecks.contains gguid = false ∧
        (roleCheck.state ≠ .finished →
          ((s.updateRoleCheck env gguid guid roles).groups gguid).state =
              (s.groups gguid).oldState ∧
            ∀ p ∈ roleCheck.roles.keys,
              (s.updateRoleCheck env gguid guid roles).players p = (s.players p).clearState) := by
  cases hended : s.endedBy gguid guid roles with
  | none =>
    refine ⟨fun g hg hgone => ?_, fun roleCheck hroleCheck => by cases hroleCheck⟩
    rcases updateRoleCheck_of_none hended env with heq | ⟨stored, -, heq⟩
    · rw [heq, hg] at hgone
      cases hgone
    · rw [heq, OrderedMap.contains, find?_set] at hgone
      split_ifs at hgone
      · cases hgone
      · rw [OrderedMap.contains, hgone] at hg
        cases hg
  | some ended =>
    obtain ⟨hcontains, heq⟩ := updateRoleCheck_of_endedBy hended env
    have hchecks : (s.updateRoleCheck env gguid guid roles).roleChecks =
        s.roleChecks.erase gguid := by
      rw [heq]
      split_ifs
      · exact (finishRoleCheck_spec (s := s) env (h.ofGroup gguid hcontains)
          (h.listed_endedBy hplayer hended)).2.1
      · exact (failRoleCheck_spec gguid ended s).2.1
    refine ⟨fun g hg hgone => ⟨?_, ended, rfl⟩, fun roleCheck hroleCheck => ⟨?_, fun hfailed => ?_⟩⟩
    · by_contra hne
      rw [hchecks, OrderedMap.contains, find?_erase_of_ne _ hne] at hgone
      rw [OrderedMap.contains, hgone] at hg
      cases hg
    · simp [hchecks, OrderedMap.contains]
    · cases hroleCheck
      obtain ⟨-, -, hgroups, hplayers⟩ := failRoleCheck_spec gguid ended s
      rw [heq, if_neg hfailed]
      refine ⟨?_, hplayers⟩
      rw [hgroups, if_pos rfl]
      rfl

theorem EndsWell.of_eq {op : RoleCheckOp} (hchecks : (s.roleCheckStep op).roleChecks = s.roleChecks)
    (hended : s.endedRoleChecks op = []) : s.EndsWell op := by
  refine ⟨fun g hg hgone => ?_, ?_, ?_, ?_⟩
  · rw [hchecks, hg] at hgone
    cases hgone
  all_goals simp [hended]

theorem EndsWell.of_answer {op : RoleCheckOp} {opened : LFGMgr} {roles : LfgRoles} {env : MgrEnv}
    (h : opened.RoleCheckInv) (hplayer : isGroup guid = false)
    (hstep : s.roleCheckStep op = opened.updateRoleCheck env gguid guid roles)
    (hended : s.endedRoleChecks op =
      ((opened.endedBy gguid guid roles).map fun roleCheck => (gguid, roleCheck)).toList)
    (hchecks : ∀ g, s.roleChecks.contains g = true → opened.roleChecks.contains g = true)
    (hgroup : (opened.groups gguid).oldState = (s.groups gguid).oldState)
    (hplayers : ∀ p, (opened.players p).oldState = (s.players p).oldState) : s.EndsWell op := by
  obtain ⟨hlisted, hends⟩ := updateRoleCheck_ends h hplayer env gguid roles
  have hmem : ∀ e ∈ s.endedRoleChecks op, e.1 = gguid ∧
      opened.endedBy gguid guid roles = some e.2 := by
    intro e he
    rw [hended, Option.mem_toList, Option.map_eq_some_iff] at he
    obtain ⟨roleCheck, hroleCheck, rfl⟩ := he
    exact ⟨rfl, hroleCheck⟩
  refine ⟨fun g hg hgone => ?_, fun e he => ?_, fun e he hfailed => ?_, fun e he hfailed p hp => ?_⟩
  · rw [hstep] at hgone
    obtain ⟨rfl, roleCheck, hroleCheck⟩ := hlisted g (hchecks g hg) hgone
    exact ⟨roleCheck, by simp [hended, hroleCheck]⟩
  · obtain ⟨hgguid, hroleCheck⟩ := hmem e he
    rw [hstep, hgguid]
    exact (hends e.2 hroleCheck).1
  · obtain ⟨hgguid, hroleCheck⟩ := hmem e he
    rw [hstep, hgguid, ((hends e.2 hroleCheck).2 hfailed).1, hgroup]
  · obtain ⟨-, hroleCheck⟩ := hmem e he
    rw [hstep, ((hends e.2 hroleCheck).2 hfailed).2 p hp]
    exact ⟨hplayers p, rfl, rfl⟩

/-! ## Leaving and waiting -/

/-- The players of a group are cleared and the group goes back: what a queued group does when it
leaves. -/
theorem leaveQueue_spec (gguid : Guid) (q : LFGQueue → LFGQueue) (team : ℕ) (s : LFGMgr) :
    let restored := (s.updateQueue team q).restoreState gguid
    let s' := (restored.getPlayers gguid).elems.foldl clearState restored
    s.SameMembers s' ∧ s'.roleChecks = s.roleChecks ∧
      ∀ g, s'.groups g = if g = gguid then (s.groups gguid).restoreState else s.groups g := by
  dsimp only
  generalize (((s.updateQueue team q).restoreState gguid).getPlayers gguid).elems = members
  have hrestated := (Restated.restoreState (s.updateQueue team q) gguid).trans
    (Restated.foldl Restated.clearState members _)
  refine ⟨⟨hrestated.group, hrestated.members, hrestated.proposals⟩, hrestated.roleChecks,
    fun g => ?_⟩
  rw [foldl_groups (fun s p _ => show (s.clearState p).groups = s.groups from rfl)]
  exact updateGroup_groups (s.updateQueue team q) _ g

theorem foldl_removeOldRoleCheck {now : ℕ} (h : ∀ e ∈ s.roleChecks.entries, now < e.2.cancelTime) :
    s.roleChecks.entries.foldl (removeOldRoleCheck now) s = s :=
  foldl_invariant (fun s' => s' = s)
    (fun s' e he hs' => by rw [removeOldRoleCheck, if_pos (h e he), hs']) rfl

/-! ## The run -/

theorem RoleCheckInv.step {op : RoleCheckOp} (h : s.RoleCheckInv) (hop : s.RoleCheckKept op) :
    (s.roleCheckStep op).RoleCheckInv ∧ s.EndsWell op := by
  have hzero : isGroup 0 = false := by decide
  cases op with
  | joinLfg env req =>
    rcases joinLfg_cases env req s with ⟨opened, hopened, heq⟩ | ⟨hnone, hm, hchecks, hgroups⟩
    · obtain ⟨hinv, hkept, hgroup, hplayers⟩ := joinRoleCheck_spec h hopened
      have hstep : s.roleCheckStep (.joinLfg env req) = opened.updateRoleCheck env
          (s.joinGuid req.player) req.player req.roles := heq
      exact ⟨hstep ▸ hinv.updateRoleCheck req.isPlayer env _ _,
        .of_answer hinv req.isPlayer hstep (by simp [endedRoleChecks, hopened]) hkept hgroup
          hplayers⟩
    · exact ⟨h.congr hm hchecks hgroups, .of_eq hchecks (by simp [endedRoleChecks, hnone])⟩
  | updateRoleCheck env gguid guid isPlayer roles =>
    exact ⟨h.updateRoleCheck isPlayer env gguid roles,
      .of_answer h isPlayer rfl rfl (fun _ hg => hg) rfl fun _ => rfl⟩
  | leaveLfg env guid =>
    by_cases hcheck : s.getState guid = .rolecheck
    · have hstep : s.roleCheckStep (.leaveLfg env guid) = s.updateRoleCheck env
          (if isGroup guid then guid else s.getGroup guid) 0 playerRoleNone := by
        simp only [roleCheckStep, leaveLfg, hcheck]
      refine ⟨hstep ▸ h.updateRoleCheck hzero env _ _, .of_answer h hzero hstep ?_ (fun _ hg => hg)
        rfl fun _ => rfl⟩
      simp only [endedRoleChecks, hcheck, if_true]
    have hnone : s.endedRoleChecks (.leaveLfg env guid) = [] := by
      simp only [endedRoleChecks, hcheck, if_false]
    suffices hleft : (s.leaveLfg env guid).RoleCheckInv ∧
        (s.leaveLfg env guid).roleChecks = s.roleChecks from
      ⟨hleft.1, .of_eq hleft.2 hnone⟩
    unfold leaveLfg
    cases hstate : s.getState guid with
    | rolecheck => exact absurd hstate hcheck
    | queued =>
      dsimp only
      by_cases halone : (if isGroup guid = true then guid else s.getGroup guid) = 0
      · rw [if_neg (not_not.mpr halone)]
        exact ⟨h.congr ⟨(Restated.clearState _ guid).group, (Restated.clearState _ guid).members,
          rfl⟩ rfl rfl, rfl⟩
      · rw [if_pos halone]
        have hout : isGroup (if isGroup guid = true then guid else s.getGroup guid) = true ∧
            s.getState (if isGroup guid = true then guid else s.getGroup guid) ≠ .rolecheck := by
          split_ifs at halone ⊢ with hguid
          · exact ⟨hguid, hcheck⟩
          · exact ⟨(h.group guid).resolve_left halone,
              hop (by simpa using hguid) hstate halone⟩
        generalize (if isGroup guid = true then guid else s.getGroup guid) = gguid at hout ⊢
        obtain ⟨hgroup, hout⟩ := hout
        obtain ⟨hm, hchecks, hgroups⟩ := leaveQueue_spec gguid (·.removeFromQueue gguid)
          (s.queueId gguid) s
        refine ⟨h.change hgroup hm (fun g _ => by rw [hchecks]) (fun g hne => ?_) ?_ ?_ ?_, hchecks⟩
        · rw [hgroups, if_neg hne]
        · rw [hgroups, if_pos rfl, hchecks, ← h.matching gguid hgroup]
          exact iff_of_false (h.oldState gguid) hout
        · rw [hgroups, if_pos rfl]
          exact h.oldState gguid
        · rw [hchecks]
          exact h.listed gguid
    | proposal =>
      rw [h.noProposals]
      exact ⟨h, rfl⟩
    | _ => exact ⟨h, rfl⟩
  | removeOldRoleChecks now =>
    have hsame : s.roleCheckStep (.removeOldRoleChecks now) = s := foldl_removeOldRoleCheck hop
    refine ⟨hsame.symm ▸ h, .of_eq (by rw [hsame]) ?_⟩
    rw [endedRoleChecks, List.map_eq_nil_iff, List.filter_eq_nil_iff]
    intro e he
    simpa using hop e he

/-- **Role checks and group states match**, and role checks end well, in every run in which no role
check takes too long and no queued player leaves whose group is in a role check. -/
theorem roleChecksMatch_run (hs : s.AtRest) (ops : List RoleCheckOp)
    (h : Admissible roleCheckStep RoleCheckKept s ops) :
    (run roleCheckStep s ops).RoleChecksMatch ∧
      ∀ op, (run roleCheckStep s ops).RoleCheckKept op → (run roleCheckStep s ops).EndsWell op := by
  have hinv : (run roleCheckStep s ops).RoleCheckInv :=
    run_invariant RoleCheckInv (fun _ _ hinv hop => (hinv.step hop).1) hs.inv h
  exact ⟨hinv.matching, fun op hop => (hinv.step hop).2⟩

/-- A group of two players. -/
def twoPlayers : LFGMgr where
  players guid := if guid = 1 ∨ guid = 2 then { group := groupGuid 1 } else {}
  groups gguid := if gguid = groupGuid 1 then { players := OrderedSet.ofList [1, 2] } else {}

theorem twoPlayers_atRest : twoPlayers.AtRest where
  noRoleChecks := rfl
  noProposals := rfl
  state g := by
    simp only [twoPlayers]
    split_ifs <;> decide
  oldState g := by
    simp only [twoPlayers]
    split_ifs <;> decide
  members g := by
    simp only [getPlayers, twoPlayers]
    split_ifs <;> decide
  group p := by
    simp only [getGroup, twoPlayers]
    split_ifs <;> decide

/-- The first player joins with the group, as a tank. -/
def tankJoins (now : ℕ) : RoleCheckOp :=
  .joinLfg (openEnv now) ⟨1, by decide, 0x02, OrderedSet.ofList [7]⟩

/-- The second player selects a role, the group is queued, and joins for something else. -/
def joinsAgain : List RoleCheckOp :=
  [tankJoins 0, .updateRoleCheck (openEnv 5) (groupGuid 1) 2 (by decide) 0x08,
    .removeOldRoleChecks 10,
    .joinLfg (openEnv 15) ⟨1, by decide, 0x02, OrderedSet.ofList [8]⟩]

/-- The second player selects no role, and the group does not stay in a role check. -/
theorem roleChecksMatch_joinsAgain :
    (run roleCheckStep twoPlayers joinsAgain).RoleChecksMatch ∧
      (run roleCheckStep twoPlayers joinsAgain).EndsWell
        (.updateRoleCheck (openEnv 20) (groupGuid 1) 2 (by decide) 0) := by
  obtain ⟨hmatch, hends⟩ :=
    roleChecksMatch_run twoPlayers_atRest joinsAgain (by decide +kernel)
  exact ⟨hmatch, hends _ trivial⟩

/-- **Nobody answers**: the role check is gone, and the group is in one. -/
theorem not_roleChecksMatch_run :
    ¬ ∀ (s : LFGMgr) (_ : s.AtRest) (ops : List RoleCheckOp),
      (run roleCheckStep s ops).RoleChecksMatch ∧
        ∀ op, (run roleCheckStep s ops).EndsWell op := by
  intro h
  have hmatch := (h twoPlayers twoPlayers_atRest [tankJoins 0, .removeOldRoleChecks 40000]).1
    (groupGuid 1) (by decide)
  revert hmatch
  decide +kernel

end LFGMgr

end TeraCore
