import TeraCore.Commons.Run
import TeraCore.Battlegrounds.BattlegroundQueue

/-!
# Battlegrounds: the structure of the queue

Every group in memory is in one list of the queue, once, and in a list of its team.  The players of
a group are those whom the queue has with that group.  So a player who leaves is found.

The moves between the lists keep this, each of them because a group gets its new team and its new
list together.  The same-faction skirmish may move several groups, and looks for each in the old
list from a saved iterator on, which the erasure of the one before has invalidated.  So a run in
which it moves more than one group has no result.

## Main results

* `Relocated.structured`: a group that gets a new list and a team of it
* `removePlayer_spec`: who leaves with a player
* `movesOne_iff`: when a skirmish has a result
* `structured_run`: which runs have a result, and the structure after them
-/

namespace TeraCore

open Commons OrderedMap OrderedSet

namespace BattlegroundQueue

/-- The group is in one list only, once. -/
def At (q : BattlegroundQueue) (group bracketId index : ℕ) : Prop :=
  ∀ bracketId' index', (q.queuedGroups bracketId' index').count group =
    if bracketId' = bracketId ∧ index' = index then 1 else 0

/-- The lists of a team. -/
def OfTeam (index : ℕ) (team : Team) : Prop :=
  index = bgQueuePremade team ∨ index = bgQueueNormal team

/-- **Groups, lists and players agree.** -/
structure Structured (q : BattlegroundQueue) : Prop where
  /-- A group is in one list, of its team. -/
  placed : ∀ group info, q.groups.find? group = some info → ∃ bracketId index,
    bracketId < maxBattlegroundBrackets ∧ OfTeam index info.team ∧ q.At group bracketId index
  /-- The lists have groups that are in memory. -/
  listed : ∀ bracketId index, ∀ group ∈ q.queuedGroups bracketId index,
    ∃ info, q.groups.find? group = some info
  nonempty : ∀ group info, q.groups.find? group = some info → ∃ guid, guid ∈ info.players
  /-- The players of a group are those whom the queue has with it. -/
  players : ∀ group info, q.groups.find? group = some info → ∀ guid, guid ∈ info.players ↔
    ∃ player, q.queuedPlayers.find? guid = some player ∧ player.groupInfo = group
  /-- The group of a player is in memory. -/
  queued : ∀ guid player, q.queuedPlayers.find? guid = some player →
    ∃ info, q.groups.find? player.groupInfo = some info
  fresh : ∀ group info, q.groups.find? group = some info → group < q.nextGroup

theorem structured_start : start.Structured := by
  constructor
  · intro _ _ h
    cases h
  · intro _ _ _ h
    cases h
  · intro _ _ h
    cases h
  · intro _ _ h
    cases h
  · intro _ _ h
    cases h
  · intro _ _ h
    cases h

/-! ## Places -/

variable {q q' : BattlegroundQueue} {group bracketId index aTeam hTeam : ℕ} {info : GroupQueueInfo}
  {team : Team} {guid : Guid} {player : PlayerQueueInfo} {env : RatedEnv} {arenaRating : BitVec 32}

theorem ginfo_eq (h : q.groups.find? group = some info) :
    q.ginfo group = info :=
  get_of_find? h

theorem At.mem_iff (h : q.At group bracketId index) (bracketId' index' : ℕ) :
    group ∈ q.queuedGroups bracketId' index' ↔ bracketId' = bracketId ∧ index' = index := by
  rw [← List.count_pos_iff, h]
  split_ifs with hplace <;> simp [hplace]

theorem At.unique {bracketId' index' : ℕ} (h : q.At group bracketId index)
    (hmem : group ∈ q.queuedGroups bracketId' index') :
    bracketId' = bracketId ∧ index' = index :=
  (h.mem_iff bracketId' index').mp hmem

theorem Structured.at_of_mem (h : q.Structured) (hmem : group ∈ q.queuedGroups bracketId index) :
    ∃ info, q.groups.find? group = some info ∧ bracketId < maxBattlegroundBrackets ∧
      OfTeam index info.team ∧ q.At group bracketId index := by
  obtain ⟨info, hinfo⟩ := h.listed bracketId index group hmem
  obtain ⟨bracketId', index', hbracket, hteam, hat⟩ := h.placed group info hinfo
  obtain ⟨rfl, rfl⟩ := hat.unique hmem
  exact ⟨info, hinfo, hbracket, hteam, hat⟩

theorem Structured.nodup (h : q.Structured) (bracketId index : ℕ) :
    (q.queuedGroups bracketId index).Nodup := by
  rw [List.nodup_iff_count_le_one]
  intro group
  by_cases hmem : group ∈ q.queuedGroups bracketId index
  · obtain ⟨-, -, -, -, hat⟩ := h.at_of_mem hmem
    rw [hat]
    split_ifs <;> omega
  · rw [List.count_eq_zero.mpr hmem]
    omega

theorem bgQueuePremade_ne_normal (team team' : Team) :
    bgQueuePremade team ≠ bgQueueNormal team' := by
  cases team <;> cases team' <;> decide

theorem ofTeam_unique {team' : Team} (h : OfTeam index team)
    (h' : OfTeam index team') : team = team' := by
  cases team <;> cases team' <;> first | rfl | skip
  all_goals
    rcases h with rfl | rfl <;> rcases h' with h' | h' <;> revert h' <;> decide

/-! ## One group gets a new place -/

/-- **A group gets another place and another team**, and the rest stays. -/
structure Relocated (q q' : BattlegroundQueue) (group : ℕ) (info : GroupQueueInfo)
    (bracketId index : ℕ) : Prop where
  groups : ∀ other, q'.groups.find? other =
    if other = group then some info else q.groups.find? other
  queuedPlayers : q'.queuedPlayers = q.queuedPlayers
  nextGroup : q'.nextGroup = q.nextGroup
  place : q'.At group bracketId index
  others : ∀ other, other ≠ group → ∀ bracketId' index',
    (q'.queuedGroups bracketId' index').count other =
      (q.queuedGroups bracketId' index').count other

theorem Relocated.structured {old : GroupQueueInfo}
    (hmoved : Relocated q q' group info bracketId index) (h : q.Structured)
    (hold : q.groups.find? group = some old) (hplayers : info.players = old.players)
    (hbracket : bracketId < maxBattlegroundBrackets) (hteam : OfTeam index info.team) :
    q'.Structured := by
  have hfind : ∀ other info', q'.groups.find? other = some info' →
      (other = group ∧ info' = info) ∨ (other ≠ group ∧ q.groups.find? other = some info') := by
    intro other info' hfound
    rw [hmoved.groups] at hfound
    split_ifs at hfound with heq
    · exact .inl ⟨heq, (Option.some.inj hfound).symm⟩
    · exact .inr ⟨heq, hfound⟩
  have hkept : ∀ other, (∃ info', q.groups.find? other = some info') →
      ∃ info', q'.groups.find? other = some info' := by
    rintro other ⟨info', hfound⟩
    rw [hmoved.groups]
    split_ifs
    · exact ⟨_, rfl⟩
    · exact ⟨_, hfound⟩
  constructor
  · intro other info' hfound
    rcases hfind other info' hfound with ⟨rfl, rfl⟩ | ⟨hne, hfound⟩
    · exact ⟨bracketId, index, hbracket, hteam, hmoved.place⟩
    · obtain ⟨bracketId', index', hb, ht, hat⟩ := h.placed other info' hfound
      exact ⟨bracketId', index', hb, ht, fun b i => (hmoved.others other hne b i).trans (hat b i)⟩
  · intro bracketId' index' other hmem
    refine hkept other ?_
    by_cases heq : other = group
    · exact ⟨old, heq ▸ hold⟩
    · rw [← List.count_pos_iff, hmoved.others other heq, List.count_pos_iff] at hmem
      exact h.listed bracketId' index' other hmem
  · intro other info' hfound
    rcases hfind other info' hfound with ⟨rfl, rfl⟩ | ⟨-, hfound⟩
    · rw [hplayers]
      exact h.nonempty other old hold
    · exact h.nonempty other info' hfound
  · intro other info' hfound guid
    rw [hmoved.queuedPlayers]
    rcases hfind other info' hfound with ⟨rfl, rfl⟩ | ⟨-, hfound⟩
    · rw [hplayers]
      exact h.players other old hold guid
    · exact h.players other info' hfound guid
  · intro guid player hfound
    rw [hmoved.queuedPlayers] at hfound
    exact hkept _ (h.queued guid player hfound)
  · intro other info' hfound
    rw [hmoved.nextGroup]
    rcases hfind other info' hfound with ⟨rfl, rfl⟩ | ⟨-, hfound⟩
    · exact h.fresh other old hold
    · exact h.fresh other info' hfound

theorem Structured.setGroup (h : q.Structured) {old : GroupQueueInfo}
    (hold : q.groups.find? group = some old) (hplayers : info.players = old.players)
    (hteam : info.team = old.team) : (q.setGroup group info).Structured := by
  obtain ⟨bracketId, index, hbracket, hof, hat⟩ := h.placed group old hold
  have hmoved : Relocated q (q.setGroup group info) group info bracketId index :=
    ⟨fun other => find?_set _ _ _ _, rfl, rfl, hat, fun _ _ _ _ => rfl⟩
  exact hmoved.structured h hold hplayers hbracket (hteam ▸ hof)

theorem Structured.congr (h : q.Structured) (hlists : q'.queuedGroups = q.queuedGroups)
    (hplayers : q'.queuedPlayers = q.queuedPlayers) (hgroups : q'.groups = q.groups)
    (hnext : q'.nextGroup = q.nextGroup) : q'.Structured := by
  cases q
  cases q'
  cases hlists
  cases hplayers
  cases hgroups
  cases hnext
  exact ⟨h.placed, h.listed, h.nonempty, h.players, h.queued, h.fresh⟩

/-- A group is put in front of another list, and is taken off its own by `remove`. -/
theorem relocated_move {target : ℕ}
    {remove : List ℕ → List ℕ} (hat : q.At group bracketId index) (hne : target ≠ index)
    (hremove : ∀ other, (remove (q.queuedGroups bracketId index)).count other =
      if other = group then 0 else (q.queuedGroups bracketId index).count other)
    (hgroups : ∀ other, q'.groups.find? other =
      if other = group then some info else q.groups.find? other)
    (hplayers : q'.queuedPlayers = q.queuedPlayers) (hnext : q'.nextGroup = q.nextGroup)
    (hlists : q'.queuedGroups = ((q.modifyList bracketId target (group :: ·)).modifyList bracketId
      index remove).queuedGroups) : Relocated q q' group info bracketId target := by
  have hcount : ∀ other b i, (q'.queuedGroups b i).count other =
      if b = bracketId ∧ i = target then (group :: q.queuedGroups bracketId target).count other
      else if b = bracketId ∧ i = index then
        if other = group then 0 else (q.queuedGroups bracketId index).count other
      else (q.queuedGroups b i).count other := by
    intro other b i
    rw [hlists]
    simp only [modifyList]
    by_cases htarget : b = bracketId ∧ i = target
    · rw [if_pos htarget, if_neg fun hboth => hne (htarget.2.symm.trans hboth.2), if_pos htarget,
        htarget.1, htarget.2]
    · rw [if_neg htarget]
      by_cases hindex : b = bracketId ∧ i = index
      · rw [if_pos hindex, if_pos hindex, if_neg htarget, hindex.1, hindex.2, hremove]
      · rw [if_neg hindex, if_neg hindex, if_neg htarget]
  refine ⟨hgroups, hplayers, hnext, fun b i => ?_, fun other hother b i => ?_⟩
  · rw [hcount]
    by_cases htarget : b = bracketId ∧ i = target
    · rw [if_pos htarget, if_pos htarget, List.count_cons_self, hat,
        if_neg fun hboth => hne hboth.2]
    · rw [if_neg htarget, if_neg htarget]
      by_cases hindex : b = bracketId ∧ i = index
      · rw [if_pos hindex, if_pos rfl]
      · rw [if_neg hindex, hat, if_neg hindex]
  · rw [hcount]
    by_cases htarget : b = bracketId ∧ i = target
    · rw [if_pos htarget, List.count_cons_of_ne (Ne.symm hother), htarget.1, htarget.2]
    · rw [if_neg htarget]
      by_cases hindex : b = bracketId ∧ i = index
      · rw [if_pos hindex, if_neg hother, hindex.1, hindex.2]
      · rw [if_neg hindex]

/-! ## Joining -/

theorem find?_foldl_set {ν : Type*} (v : ν) (guid : Guid) : ∀ (guids : List Guid)
    (players : OrderedMap Guid ν),
    (guids.foldl (fun players guid => players.set guid v) players).find? guid =
      if guid ∈ guids then some v else players.find? guid
  | [], players => rfl
  | first :: rest, players => by
    rw [List.foldl_cons, find?_foldl_set v guid rest, find?_set]
    by_cases hrest : guid ∈ rest
    · rw [if_pos hrest, if_pos (List.mem_cons_of_mem _ hrest)]
    · rw [if_neg hrest]
      by_cases hfirst : guid = first
      · rw [if_pos hfirst, if_pos (List.mem_cons.mpr (.inl hfirst))]
      · rw [if_neg hfirst, if_neg (by simp [hfirst, hrest])]

theorem joinIndex_ofTeam (join : QueueJoin) : OfTeam (joinIndex join) join.team := by
  rw [joinIndex]
  split_ifs
  · exact .inr rfl
  · exact .inl rfl

theorem QueueJoin.exists_member {join : QueueJoin}
    (h : ∀ members ∈ join.grp, join.leader ∈ members) : join.leader ∈ join.members := by
  rw [QueueJoin.members]
  cases hgrp : join.grp with
  | none => exact List.mem_singleton.mpr rfl
  | some members => exact h members hgrp

theorem Structured.addGroup (h : q.Structured) (now : BitVec 32) {join : QueueJoin}
    (hallowed : q.Allowed (.addGroup now join)) : (q.addGroup now join).Structured := by
  obtain ⟨hbracket, hleader, hnew⟩ := hallowed
  have hnotqueued : ∀ guid ∈ join.members, q.queuedPlayers.find? guid = none := fun guid hguid =>
    Option.not_isSome_iff_eq_none.mp (Bool.eq_false_iff.mp (hnew guid hguid))
  have hplayers : ∀ guid, (q.addGroup now join).queuedPlayers.find? guid =
      if guid ∈ join.members then some ⟨now, q.nextGroup⟩ else q.queuedPlayers.find? guid :=
    fun guid => find?_foldl_set _ guid join.members q.queuedPlayers
  have hunlisted : ∀ b i, (q.queuedGroups b i).count q.nextGroup = 0 := fun b i =>
    List.count_eq_zero.mpr fun hmem => by
      obtain ⟨info, hinfo⟩ := h.listed b i _ hmem
      exact (h.fresh _ _ hinfo).false
  have hlists : ∀ group b i, ((q.addGroup now join).queuedGroups b i).count group =
      (q.queuedGroups b i).count group +
        if (b = join.bracketId ∧ i = joinIndex join) ∧ group = q.nextGroup then 1 else 0 := by
    intro group b i
    simp only [BattlegroundQueue.addGroup, modifyList]
    by_cases hplace : b = join.bracketId ∧ i = joinIndex join
    · rw [if_pos hplace, List.count_append]
      by_cases hgroup : group = q.nextGroup
      · rw [if_pos ⟨hplace, hgroup⟩, hgroup, List.count_singleton_self]
      · rw [if_neg fun hboth => hgroup hboth.2, List.count_cons_of_ne (Ne.symm hgroup),
          List.count_nil]
    · rw [if_neg hplace, if_neg fun hboth => hplace hboth.1, Nat.add_zero]
  have hfind : ∀ group info, (q.addGroup now join).groups.find? group = some info →
      (group = q.nextGroup ∧ info.team = join.team ∧
        info.players = OrderedSet.ofList join.members) ∨
      (group ≠ q.nextGroup ∧ q.groups.find? group = some info) := by
    intro group info hfound
    simp only [BattlegroundQueue.addGroup, find?_set] at hfound
    split_ifs at hfound with heq
    · cases hfound
      exact .inl ⟨heq, rfl, rfl⟩
    · exact .inr ⟨heq, hfound⟩
  have hkept : ∀ group info, q.groups.find? group = some info →
      (q.addGroup now join).groups.find? group = some info := fun group info hfound =>
    (find?_set_of_ne _ _ (h.fresh _ _ hfound).ne).trans hfound
  have hthere : ∃ info, (q.addGroup now join).groups.find? q.nextGroup = some info :=
    ⟨_, find?_set_self _ _ _⟩
  constructor
  · intro group info hfound
    rcases hfind group info hfound with ⟨rfl, hteam, -⟩ | ⟨hne, hfound⟩
    · refine ⟨join.bracketId, joinIndex join, hbracket, hteam ▸ joinIndex_ofTeam join,
        fun b i => ?_⟩
      rw [hlists, hunlisted, Nat.zero_add]
      by_cases hplace : b = join.bracketId ∧ i = joinIndex join
      · rw [if_pos ⟨hplace, rfl⟩, if_pos hplace]
      · rw [if_neg fun hboth => hplace hboth.1, if_neg hplace]
    · obtain ⟨b, i, hb, ht, hat⟩ := h.placed group info hfound
      refine ⟨b, i, hb, ht, fun b' i' => ?_⟩
      rw [hlists, if_neg fun hboth => hne hboth.2, Nat.add_zero, hat]
  · intro b i group hmem
    rw [← List.count_pos_iff, hlists] at hmem
    by_cases hgroup : group = q.nextGroup
    · exact hgroup ▸ hthere
    · rw [if_neg fun hboth => hgroup hboth.2, Nat.add_zero, List.count_pos_iff] at hmem
      obtain ⟨info, hfound⟩ := h.listed b i group hmem
      exact ⟨info, hkept group info hfound⟩
  · intro group info hfound
    rcases hfind group info hfound with ⟨-, -, hinfo⟩ | ⟨-, hfound⟩
    · exact ⟨join.leader, hinfo ▸ mem_ofList.mpr (QueueJoin.exists_member hleader)⟩
    · exact h.nonempty group info hfound
  · intro group info hfound guid
    rw [hplayers]
    rcases hfind group info hfound with ⟨rfl, -, hinfo⟩ | ⟨hne, hfound⟩
    · rw [hinfo, mem_ofList]
      by_cases hguid : guid ∈ join.members
      · simp [hguid]
      · refine iff_of_false hguid ?_
        rintro ⟨player, hfound, hgroup⟩
        rw [if_neg hguid] at hfound
        obtain ⟨info', hinfo'⟩ := h.queued guid player hfound
        rw [hgroup] at hinfo'
        exact (h.fresh _ _ hinfo').false
    · rw [h.players group info hfound]
      by_cases hguid : guid ∈ join.members
      · rw [if_pos hguid, hnotqueued guid hguid]
        simp [Ne.symm hne]
      · rw [if_neg hguid]
  · intro guid player hfound
    rw [hplayers] at hfound
    split_ifs at hfound
    · cases hfound
      exact hthere
    · obtain ⟨info, hinfo⟩ := h.queued guid player hfound
      exact ⟨info, hkept _ info hinfo⟩
  · intro group info hfound
    show group < q.nextGroup + 1
    rcases hfind group info hfound with ⟨rfl, -, -⟩ | ⟨-, hfound⟩
    · exact Nat.lt_succ_self _
    · exact (h.fresh group info hfound).trans (Nat.lt_succ_self _)

/-! ## Leaving -/

theorem Structured.findGroup (h : q.Structured) (hinfo : q.groups.find? group = some info) :
    ∃ bracketId index, q.findGroup group = some (bracketId, index) ∧
      OfTeam index info.team ∧ q.At group bracketId index := by
  obtain ⟨bracketId, index, hbracket, hteam, hat⟩ := h.placed group info hinfo
  have hnone : ∀ b, b ≠ bracketId →
      ∀ i, group ∉ q.queuedGroups b i := fun b hb i hmem => hb (hat.unique hmem).1
  refine ⟨bracketId, index, ?_, hteam, hat⟩
  rw [BattlegroundQueue.findGroup, ginfo_eq hinfo]
  have hhere : group ∈ q.queuedGroups bracketId index := (hat.mem_iff _ _).mpr ⟨rfl, rfl⟩
  have hvalue : ∀ b, (if group ∈ q.queuedGroups b (bgQueueNormal info.team) then
        some (b, bgQueueNormal info.team)
      else if group ∈ q.queuedGroups b (bgQueuePremade info.team) then
        some (b, bgQueuePremade info.team) else none) =
      if b = bracketId then some (bracketId, index) else none := by
    intro b
    by_cases hb : b = bracketId
    · rw [if_pos hb, hb]
      rcases hteam with rfl | rfl
      · rw [if_neg fun hmem => bgQueuePremade_ne_normal _ _ (hat.unique hmem).2.symm, if_pos hhere]
      · rw [if_pos hhere]
    · rw [if_neg hb, if_neg (hnone b hb _), if_neg (hnone b hb _)]
  simp only [hvalue]
  have hmem : bracketId ∈ (List.range maxBattlegroundBrackets).reverse :=
    List.mem_reverse.mpr (List.mem_range.mpr hbracket)
  generalize (List.range maxBattlegroundBrackets).reverse = brackets at hmem
  induction brackets with
  | nil => cases hmem
  | cons b brackets ih =>
    rw [List.findSome?_cons]
    by_cases hb : b = bracketId
    · rw [if_pos hb]
    · rw [if_neg hb]
      exact ih ((List.mem_cons.mp hmem).resolve_left (Ne.symm hb))

section

variable (h : q.Structured) (hplayer : q.queuedPlayers.find? guid = some player)
  (hinfo : q.groups.find? player.groupInfo = some info)
include h hplayer hinfo

theorem Structured.leave (hrest : ∃ other, other ∈ info.players.erase guid) :
    ({ q.setGroup player.groupInfo { info with players := info.players.erase guid } with
      queuedPlayers := q.queuedPlayers.erase guid } : BattlegroundQueue).Structured := by
  have hfind : ∀ group info', (q.groups.set player.groupInfo
      { info with players := info.players.erase guid }).find? group = some info' →
      (group = player.groupInfo ∧ info' = { info with players := info.players.erase guid }) ∨
      (group ≠ player.groupInfo ∧ q.groups.find? group = some info') := by
    intro group info' hfound
    rw [find?_set] at hfound
    split_ifs at hfound with heq
    · exact .inl ⟨heq, (Option.some.inj hfound).symm⟩
    · exact .inr ⟨heq, hfound⟩
  have hkept : ∀ group, (∃ info', q.groups.find? group = some info') →
      ∃ info', (q.groups.set player.groupInfo
        { info with players := info.players.erase guid }).find? group = some info' := by
    rintro group ⟨info', hfound⟩
    rw [find?_set]
    split_ifs
    · exact ⟨_, rfl⟩
    · exact ⟨_, hfound⟩
  constructor
  · intro group info' hfound
    rcases hfind group info' hfound with ⟨rfl, rfl⟩ | ⟨-, hfound⟩
    · exact h.placed _ info hinfo
    · exact h.placed group info' hfound
  · intro b i group hmem
    exact hkept group (h.listed b i group hmem)
  · intro group info' hfound
    rcases hfind group info' hfound with ⟨rfl, rfl⟩ | ⟨-, hfound⟩
    · exact hrest
    · exact h.nonempty group info' hfound
  · intro group info' hfound other
    show _ ↔ ∃ player', (q.queuedPlayers.erase guid).find? other = some player' ∧ _
    rw [find?_erase]
    rcases hfind group info' hfound with ⟨rfl, rfl⟩ | ⟨hne, hfound⟩
    · rw [mem_erase, h.players _ info hinfo other]
      by_cases hother : other = guid
      · simp [hother]
      · simp [hother]
    · rw [h.players group info' hfound other]
      by_cases hother : other = guid
      · rw [if_pos hother, hother, hplayer]
        simp [Ne.symm hne]
      · rw [if_neg hother]
  · intro other player' hfound
    change (q.queuedPlayers.erase guid).find? other = some player' at hfound
    rw [find?_erase] at hfound
    split_ifs at hfound
    exact hkept _ (h.queued other player' hfound)
  · intro group info' hfound
    rcases hfind group info' hfound with ⟨rfl, rfl⟩ | ⟨-, hfound⟩
    · exact h.fresh _ info hinfo
    · exact h.fresh group info' hfound

/-- **The last player leaves**, and the group goes. -/
theorem Structured.disband (hlast : ∀ other, other ∈ info.players → other = guid)
    (hat : q.At player.groupInfo bracketId index)
    (hplayers : q'.queuedPlayers = q.queuedPlayers.erase guid)
    (hlists : q'.queuedGroups =
      (q.modifyList bracketId index (·.erase player.groupInfo)).queuedGroups)
    (hgroups : ∀ group, q'.groups.find? group =
      if group = player.groupInfo then none else q.groups.find? group)
    (hnext : q'.nextGroup = q.nextGroup) : q'.Structured := by
  have hcount : ∀ group b i, (q'.queuedGroups b i).count group =
      if group = player.groupInfo then 0 else (q.queuedGroups b i).count group := by
    intro group b i
    rw [hlists, modifyList]
    dsimp only
    by_cases hplace : b = bracketId ∧ i = index
    · rw [if_pos hplace]
      by_cases hgroup : group = player.groupInfo
      · rw [if_pos hgroup, hgroup, List.count_erase_self, hat, if_pos hplace]
      · rw [if_neg hgroup, List.count_erase_of_ne hgroup]
    · rw [if_neg hplace]
      by_cases hgroup : group = player.groupInfo
      · rw [if_pos hgroup, hgroup, hat, if_neg hplace]
      · rw [if_neg hgroup]
  have hfind : ∀ group info', q'.groups.find? group = some info' →
      group ≠ player.groupInfo ∧ q.groups.find? group = some info' := by
    intro group info' hfound
    rw [hgroups] at hfound
    split_ifs at hfound with heq
    exact ⟨heq, hfound⟩
  have hkept : ∀ group, group ≠ player.groupInfo →
      (∃ info', q.groups.find? group = some info') →
      ∃ info', q'.groups.find? group = some info' := by
    rintro group hne ⟨info', hfound⟩
    exact ⟨info', by rw [hgroups, if_neg hne, hfound]⟩
  constructor
  · intro group info' hfound
    obtain ⟨hne, hfound⟩ := hfind group info' hfound
    obtain ⟨b, i, hb, ht, hat'⟩ := h.placed group info' hfound
    exact ⟨b, i, hb, ht, fun b' i' => by rw [hcount, if_neg hne, hat']⟩
  · intro b i group hmem
    rw [← List.count_pos_iff, hcount] at hmem
    split_ifs at hmem with heq
    · omega
    · exact hkept group heq (h.listed b i group (List.count_pos_iff.mp hmem))
  · intro group info' hfound
    exact h.nonempty group info' (hfind group info' hfound).2
  · intro group info' hfound other
    obtain ⟨hne, hfound⟩ := hfind group info' hfound
    rw [h.players group info' hfound other, hplayers, find?_erase]
    by_cases hother : other = guid
    · rw [if_pos hother, hother, hplayer]
      simp [Ne.symm hne]
    · rw [if_neg hother]
  · intro other player' hfound
    rw [hplayers, find?_erase] at hfound
    split_ifs at hfound with hother
    refine hkept _ (fun heq => hother ?_) (h.queued other player' hfound)
    exact hlast other ((h.players _ info hinfo other).mpr ⟨player', hfound, heq⟩)
  · intro group info' hfound
    rw [hnext]
    exact h.fresh group info' (hfind group info' hfound).2

end

/-- Who leaves the queue when a player does: everyone of a rated group that is not invited. -/
def LeavesWith (info : GroupQueueInfo) (guid other : Guid) : Prop :=
  other = guid ∨
    (info.isInvitedToBGInstanceGUID = 0 ∧ info.isRated = true) ∧ other ∈ info.players

theorem removePlayerTurns_spec : ∀ (turns : ℕ) {q : BattlegroundQueue} {guid : Guid}
    {player : PlayerQueueInfo} {info : GroupQueueInfo}, q.Structured →
    q.queuedPlayers.find? guid = some player → q.groups.find? player.groupInfo = some info →
    q.queuedPlayers.size ≤ turns →
    (removePlayerTurns turns q guid).Structured ∧ ∀ other,
      (LeavesWith info guid other →
        (removePlayerTurns turns q guid).queuedPlayers.find? other = none) ∧
      (¬LeavesWith info guid other →
        (removePlayerTurns turns q guid).queuedPlayers.find? other =
          q.queuedPlayers.find? other)
  | 0, q, guid, player, info, _, hplayer, _, hturns => by
    have hmem := mem_entries.mpr hplayer
    rw [List.length_eq_zero_iff.mp (Nat.le_zero.mp hturns)] at hmem
    cases hmem
  | turns + 1, q, guid, player, info, h, hplayer, hinfo, hturns => by
    obtain ⟨bracketId, index, hfound, -, hat⟩ := h.findGroup hinfo
    rw [removePlayerTurns, hplayer]
    dsimp only
    rw [hfound]
    rw [ginfo_eq hinfo]
    cases hleft : (info.players.erase guid).elems with
    | nil =>
      have hlast : ∀ other, other ∈ info.players → other = guid := by
        intro other hother
        by_contra hne
        have hmem : other ∈ (info.players.erase guid).elems :=
          mem_erase.mpr ⟨hother, hne⟩
        rw [hleft] at hmem
        cases hmem
      refine ⟨h.disband hplayer hinfo hlast hat rfl rfl (fun group => ?_) rfl, fun other =>
        ⟨fun hleaves => ?_, fun hstays => ?_⟩⟩
      · dsimp only [BattlegroundQueue.setGroup]
        rw [find?_erase, find?_set]
        split_ifs <;> rfl
      · have heq : other = guid := hleaves.elim id fun hboth => hlast other hboth.2
        exact heq ▸ find?_erase_self _ _
      · exact find?_erase_of_ne _ fun heq => hstays (.inl heq)
    | cons next rest =>
      have hnext : next ∈ info.players.erase guid := by
        rw [← mem_elems, hleft]
        exact List.mem_cons_self
      have hleaveStructured := h.leave hplayer hinfo ⟨next, hnext⟩
      split_ifs with hrated
      · -- The others of the group leave after the player.
        have hgroup : ({ q.setGroup player.groupInfo
            { info with players := info.players.erase guid } with
            queuedPlayers := q.queuedPlayers.erase guid } : BattlegroundQueue).groups.find?
              player.groupInfo = some { info with players := info.players.erase guid } :=
          find?_set_self _ _ _
        obtain ⟨player', hplayer', hsame⟩ :=
          (hleaveStructured.players _ _ hgroup next).mp hnext
        have hgroup' := (congrArg (OrderedMap.find? _) hsame).trans hgroup
        have hsize : (q.queuedPlayers.erase guid).size ≤ turns := by
          have hperm := (perm_erase hplayer).length_eq
          rw [List.length_cons] at hperm
          have hle : q.queuedPlayers.entries.length ≤ turns + 1 := hturns
          show (q.queuedPlayers.erase guid).entries.length ≤ turns
          omega
        obtain ⟨hstructured, hothers⟩ :=
          removePlayerTurns_spec turns hleaveStructured hplayer' hgroup' hsize
        refine ⟨hstructured, fun other => ⟨fun hleaves => ?_, fun hstays => ?_⟩⟩
        · by_cases hother : other = guid
          · by_cases hwith : LeavesWith { info with players := info.players.erase guid } next other
            · exact (hothers other).1 hwith
            · exact ((hothers other).2 hwith).trans (hother ▸ find?_erase_self _ _)
          · refine (hothers other).1 (.inr ⟨hrated, mem_erase.mpr ⟨?_, hother⟩⟩)
            exact (hleaves.resolve_left hother).2
        · have hother : other ≠ guid := fun heq => hstays (.inl heq)
          have hnot : other ∉ info.players := fun hmem => hstays (.inr ⟨hrated, hmem⟩)
          have hwith : ¬LeavesWith { info with players := info.players.erase guid } next other := by
            rintro (rfl | ⟨-, hmem⟩)
            · exact hnot (mem_erase.mp hnext).1
            · exact hnot (mem_erase.mp hmem).1
          exact ((hothers other).2 hwith).trans (find?_erase_of_ne _ hother)
      · refine ⟨hleaveStructured, fun other => ⟨fun hleaves => ?_, fun hstays => ?_⟩⟩
        · have heq : other = guid := hleaves.elim id fun hboth => absurd hboth.1 hrated
          exact heq ▸ find?_erase_self _ _
        · exact find?_erase_of_ne _ fun heq => hstays (.inl heq)

theorem removePlayer_spec (h : q.Structured) (hplayer : q.queuedPlayers.find? guid = some player)
    (hinfo : q.groups.find? player.groupInfo = some info) :
    (q.removePlayer guid).Structured ∧ ∀ other,
      (LeavesWith info guid other → (q.removePlayer guid).queuedPlayers.find? other = none) ∧
      (¬LeavesWith info guid other →
        (q.removePlayer guid).queuedPlayers.find? other = q.queuedPlayers.find? other) :=
  removePlayerTurns_spec q.queuedPlayers.size h hplayer hinfo le_rfl

theorem Structured.removePlayer (h : q.Structured) (guid : Guid) :
    (q.removePlayer guid).Structured := by
  cases hplayer : q.queuedPlayers.find? guid with
  | none =>
    rw [BattlegroundQueue.removePlayer]
    cases hsize : q.queuedPlayers.size with
    | zero => exact h
    | succ turns =>
      rw [removePlayerTurns, hplayer]
      exact h
  | some player =>
    obtain ⟨info, hinfo⟩ := h.queued guid player hplayer
    exact (removePlayer_spec h hplayer hinfo).1

theorem removePlayer_gone (h : q.Structured) (hplayer : q.queuedPlayers.find? guid = some player)
    (hinfo : q.groups.find? player.groupInfo = some info)
    (hrated : info.isInvitedToBGInstanceGUID = 0 ∧ info.isRated = true) :
    (q.removePlayer guid).groups.find? player.groupInfo = none := by
  obtain ⟨hstructured, hothers⟩ := removePlayer_spec h hplayer hinfo
  by_contra hthere
  obtain ⟨info', hinfo'⟩ := Option.ne_none_iff_exists'.mp hthere
  obtain ⟨other, hother⟩ := hstructured.nonempty _ info' hinfo'
  obtain ⟨player', hfound, hgroup⟩ := (hstructured.players _ info' hinfo' other).mp hother
  by_cases hleaves : LeavesWith info guid other
  · rw [(hothers other).1 hleaves] at hfound
    cases hfound
  · rw [(hothers other).2 hleaves] at hfound
    exact hleaves (.inr ⟨hrated, (h.players _ info hinfo other).mpr ⟨player', hfound, hgroup⟩⟩)

/-! ## Invitations and selections -/

theorem invite_players (info : GroupQueueInfo) (now : BitVec 32) (instanceId : ℕ)
    (side : Option Team) : (info.invite now instanceId side).players = info.players := by
  rw [GroupQueueInfo.invite]
  split_ifs <;> rfl

theorem invite_team (info : GroupQueueInfo) (now : BitVec 32) (instanceId : ℕ)
    (side : Option Team) : (info.invite now instanceId side).team = side.getD info.team := by
  rw [GroupQueueInfo.invite]
  split_ifs <;> rfl

theorem Structured.inviteGroupToBG (h : q.Structured) (now : BitVec 32)
    (instanceId : ℕ) {side : Option Team}
    (hinfo : q.groups.find? group = some info) (hside : ∀ team ∈ side, team = info.team) :
    (q.inviteGroupToBG now group instanceId side).Structured := by
  rw [BattlegroundQueue.inviteGroupToBG, ginfo_eq hinfo]
  refine h.setGroup hinfo (invite_players _ _ _ _) ((invite_team _ _ _ _).trans ?_)
  cases side with
  | none => rfl
  | some team => exact hside team rfl

theorem Structured.movePremade (h : q.Structured) (bracketId : ℕ) (timeBefore : BitVec 32)
    (minPlayersPerTeam : ℕ) (team : Team) :
    (q.movePremade bracketId timeBefore minPlayersPerTeam team).Structured := by
  rw [BattlegroundQueue.movePremade]
  cases hlist : q.queuedGroups bracketId (bgQueuePremade team) with
  | nil => exact h
  | cons group rest =>
    dsimp only
    split_ifs
    · have hmem : group ∈ q.queuedGroups bracketId (bgQueuePremade team) := by
        rw [hlist]
        exact List.mem_cons_self
      obtain ⟨info, hinfo, hbracket, hteam, hat⟩ := h.at_of_mem hmem
      have hsame : team = info.team := ofTeam_unique (.inl rfl) hteam
      have hmoved :
          Relocated q ((q.modifyList bracketId (bgQueueNormal team) (group :: ·)).modifyList
          bracketId (bgQueuePremade team) List.tail) group info bracketId (bgQueueNormal team) := by
        refine relocated_move hat (bgQueuePremade_ne_normal team team).symm (fun other => ?_)
          (fun other => ?_) rfl rfl rfl
        · have hone := hat bracketId (bgQueuePremade team)
          rw [if_pos ⟨rfl, rfl⟩, hlist, List.count_cons_self] at hone
          rw [hlist, List.tail_cons]
          split_ifs with heq
          · rw [heq]
            omega
          · rw [List.count_cons_of_ne (Ne.symm heq)]
        · show q.groups.find? other = _
          split_ifs with heq
          · rw [heq, hinfo]
          · rfl
      exact hmoved.structured h hinfo rfl hbracket (hsame ▸ .inr rfl)
    · exact h

theorem Structured.checkPremadeMatch (h : q.Structured) (now premadeWait : BitVec 32)
    (bracketId minPlayers maxPlayers : ℕ) :
    (q.checkPremadeMatch now premadeWait bracketId minPlayers maxPlayers).2.Structured := by
  rw [BattlegroundQueue.checkPremadeMatch]
  split
  · exact h.congr rfl rfl rfl rfl
  · exact (h.movePremade bracketId _ minPlayers .alliance).movePremade bracketId _ minPlayers .horde

theorem Structured.checkNormalMatch (h : q.Structured) (env : SelectionEnv)
    (bracketId minPlayers maxPlayers : ℕ) :
    (q.checkNormalMatch env bracketId minPlayers maxPlayers).2.Structured := by
  rw [BattlegroundQueue.checkNormalMatch]
  dsimp only
  split_ifs <;> exact h.congr rfl rfl rfl rfl

/-! ## The same-faction skirmish -/

theorem fillPool_sublist (q : BattlegroundQueue) (desiredCount : ℕ) :
    ∀ (groups : List ℕ) (pool : SelectionPool), ∃ added,
      (q.fillPool desiredCount groups pool).selectedGroups = pool.selectedGroups ++ added ∧
        added.Sublist groups
  | [], pool => ⟨[], (List.append_nil _).symm, List.Sublist.refl _⟩
  | group :: rest, pool => by
    rw [fillPool]
    split_ifs
    · rw [SelectionPool.addGroup]
      split_ifs
      · obtain ⟨added, hadded, hsub⟩ := fillPool_sublist q desiredCount rest
          ⟨pool.selectedGroups ++ [group], pool.playerCount + (q.ginfo group).players.size⟩
        refine ⟨group :: added, ?_, hsub.cons_cons group⟩
        rw [hadded, List.append_assoc, List.singleton_append]
      · by_cases hroom : pool.playerCount < desiredCount
        · obtain ⟨added, hadded, hsub⟩ := fillPool_sublist q desiredCount rest pool
          rw [decide_eq_true hroom]
          exact ⟨added, hadded, hsub.cons group⟩
        · rw [decide_eq_false hroom]
          exact ⟨[], (List.append_nil _).symm, List.nil_sublist _⟩
    · obtain ⟨added, hadded, hsub⟩ := fillPool_sublist q desiredCount rest pool
      exact ⟨added, hadded, hsub.cons group⟩

theorem fillPool_setPool (q : BattlegroundQueue) (team : Team) (pool : SelectionPool)
    (desiredCount : ℕ) : ∀ (groups : List ℕ) (pool' : SelectionPool),
      (q.setPool team pool).fillPool desiredCount groups pool' =
        q.fillPool desiredCount groups pool'
  | [], _ => rfl
  | group :: rest, pool' => by
    have hsame : (q.setPool team pool).ginfo group = q.ginfo group := rfl
    have huninvited : (q.setPool team pool).uninvited group = q.uninvited group := rfl
    simp only [fillPool, hsame, huninvited, fillPool_setPool q team pool desiredCount rest]

theorem bgQueueNormal_other (team : Team) : bgQueueNormal team.other ≠ bgQueueNormal team := by
  cases team <;> decide

theorem moveToOther_spec (h : q.Structured) {anchor : ℕ}
    {front back : List ℕ} (hown : q.queuedGroups bracketId (bgQueueNormal team) = front ++ back)
    (hback : group ∈ back) (hanchor : anchor < front.length) :
    (q.moveToOther bracketId team anchor group).Structured ∧
      (q.moveToOther bracketId team anchor group).queuedGroups bracketId (bgQueueNormal team) =
        front ++ back.erase group := by
  have hnodup := h.nodup bracketId (bgQueueNormal team)
  rw [hown] at hnodup
  have hfront : group ∉ front := fun hmem =>
    (List.nodup_append.mp hnodup).2.2 group hmem group hback rfl
  have hmem : group ∈ q.queuedGroups bracketId (bgQueueNormal team) := by
    rw [hown]
    exact List.mem_append_right _ hback
  have hremove : (front ++ back).take (anchor + 1) ++
      ((front ++ back).drop (anchor + 1)).erase group = front ++ back.erase group := by
    have hdrop : group ∉ front.drop (anchor + 1) := fun hin => hfront (List.mem_of_mem_drop hin)
    rw [List.take_append_of_le_length hanchor, List.drop_append_of_le_length hanchor,
      List.erase_append_right _ hdrop, ← List.append_assoc, List.take_append_drop]
  obtain ⟨info, hinfo, hbracket, hteam, hat⟩ := h.at_of_mem hmem
  have hlist : (q.moveToOther bracketId team anchor group).queuedGroups bracketId
      (bgQueueNormal team) = front ++ back.erase group := by
    simp only [moveToOther, modifyList, BattlegroundQueue.setGroup]
    rw [if_pos ⟨trivial, trivial⟩, if_neg fun hboth => bgQueueNormal_other team hboth.2.symm, hown]
    exact hremove
  have hrelocated : Relocated q (q.moveToOther bracketId team anchor group) group
      { q.ginfo group with team := team.other } bracketId (bgQueueNormal team.other) := by
    have hlists : (q.moveToOther bracketId team anchor group).queuedGroups =
        ((q.modifyList bracketId (bgQueueNormal team.other) (group :: ·)).modifyList bracketId
          (bgQueueNormal team) fun groups => groups.take (anchor + 1) ++
            (groups.drop (anchor + 1)).erase group).queuedGroups := rfl
    refine relocated_move hat (bgQueueNormal_other team) (fun other => ?_)
      (fun other => find?_set _ _ _ _) rfl rfl hlists
    have hone := hat bracketId (bgQueueNormal team)
    rw [if_pos ⟨rfl, rfl⟩, hown, List.count_append, List.count_eq_zero.mpr hfront] at hone
    rw [hown, hremove, List.count_append, List.count_append]
    split_ifs with heq
    · rw [heq, List.count_eq_zero.mpr hfront, List.count_erase_self]
      omega
    · rw [List.count_erase_of_ne heq]
  refine ⟨hrelocated.structured h hinfo ?_ hbracket (.inr rfl), hlist⟩
  rw [ginfo_eq hinfo]

theorem moveSelected_selectionPools (bracketId : ℕ) (team : Team) :
    ∀ (selected : List ℕ) (anchor : ℕ) (stale : ℕ → ℕ) (q : BattlegroundQueue),
      (moveSelected bracketId team selected anchor stale q).selectionPools = q.selectionPools
  | [], _, _, _ => rfl
  | group :: rest, anchor, stale, q =>
    moveSelected_selectionPools bracketId team rest (stale 0) (fun n => stale (n + 1))
      (q.moveToOther bracketId team anchor group)

theorem setPool_setPool (q : BattlegroundQueue) (team : Team) (pool pool' : SelectionPool) :
    (q.setPool team pool).setPool team pool' = q.setPool team pool' := by
  have hpools : ((q.setPool team pool).setPool team pool').selectionPools =
      (q.setPool team pool').selectionPools := by
    funext team'
    simp only [BattlegroundQueue.setPool]
    split_ifs <;> rfl
  exact congrArg (fun pools => { q with selectionPools := pools }) hpools

theorem selectionPools_other (q : BattlegroundQueue) (team : Team) (pool : SelectionPool) :
    (q.setPool team.other pool).selectionPools team = q.selectionPools team :=
  if_neg (by cases team <;> decide)

theorem checkSkirmish_starts_iff {minPlayers : ℕ} {stale : ℕ → ℕ} :
    (q.checkSkirmishForSameFaction bracketId minPlayers stale).1 = true ↔
      (minPlayers ≤ (q.selectionPools .alliance).playerCount ∨
          minPlayers ≤ (q.selectionPools .horde).playerCount) ∧
        (∃ last ∈ (q.selectionPools (q.skirmishTeam minPlayers)).selectedGroups.getLast?,
          last ∈ q.queuedGroups bracketId (bgQueueNormal (q.skirmishTeam minPlayers))) ∧
        (q.skirmishPool bracketId minPlayers).playerCount = minPlayers := by
  rw [checkSkirmishForSameFaction, skirmishPool]
  dsimp only
  rw [selectionPools_other]
  split_ifs with hfew
  · refine iff_of_false not_false fun h => ?_
    omega
  rw [and_iff_right (by omega)]
  cases (q.selectionPools (q.skirmishTeam minPlayers)).selectedGroups.getLast? with
  | none => simp
  | some last =>
    dsimp only
    rw [fillPool_setPool]
    change (if List.idxOf last (q.queuedGroups bracketId _) = _ then _ else _ :
      Bool × BattlegroundQueue).1 = true ↔ _
    split_ifs with hgone hcount
    · refine iff_of_false not_false ?_
      rintro ⟨⟨last', hlast, hmem⟩, -⟩
      cases hlast
      exact (List.idxOf_lt_length_of_mem hmem).ne hgone
    · exact iff_of_false not_false fun h => hcount h.2
    · refine iff_of_true rfl ⟨⟨last, rfl, ?_⟩, not_not.mp hcount⟩
      exact List.idxOf_lt_length_iff.mp (lt_of_le_of_ne List.idxOf_le_length hgone)

/-- **What a skirmish leaves**: another pool for the other side; or the groups of this pool, which
are behind the last group of the own side, are moved. -/
theorem checkSkirmish_cases (q : BattlegroundQueue) (bracketId minPlayers : ℕ) (stale : ℕ → ℕ) :
    ((q.checkSkirmishForSameFaction bracketId minPlayers stale).1 = false ∧
      ((q.checkSkirmishForSameFaction bracketId minPlayers stale).2 = q ∨
        ∃ pool, (q.checkSkirmishForSameFaction bracketId minPlayers stale).2 =
          q.setPool (q.skirmishTeam minPlayers).other pool)) ∨
    ((q.checkSkirmishForSameFaction bracketId minPlayers stale).1 = true ∧ ∃ front back,
      q.queuedGroups bracketId (bgQueueNormal (q.skirmishTeam minPlayers)) = front ++ back ∧
      (q.skirmishPool bracketId minPlayers).selectedGroups.Sublist back ∧
      ∃ anchor < front.length,
        (q.checkSkirmishForSameFaction bracketId minPlayers stale).2 =
          moveSelected bracketId (q.skirmishTeam minPlayers)
            (q.skirmishPool bracketId minPlayers).selectedGroups anchor stale
            (q.setPool (q.skirmishTeam minPlayers).other
              (q.skirmishPool bracketId minPlayers))) := by
  rw [checkSkirmishForSameFaction, skirmishPool]
  dsimp only
  rw [selectionPools_other]
  split_ifs with hfew
  · exact .inl ⟨rfl, .inl rfl⟩
  cases (q.selectionPools (q.skirmishTeam minPlayers)).selectedGroups.getLast? with
  | none => exact .inl ⟨rfl, .inr ⟨_, rfl⟩⟩
  | some last =>
    dsimp only
    rw [fillPool_setPool, setPool_setPool]
    generalize hgroups :
      q.queuedGroups bracketId (bgQueueNormal (q.skirmishTeam minPlayers)) = groups
    have hlists : (q.setPool (q.skirmishTeam minPlayers).other .init).queuedGroups bracketId
        (bgQueueNormal (q.skirmishTeam minPlayers)) = groups := hgroups
    rw [hlists]
    split_ifs with hgone hcount
    · exact .inl ⟨rfl, .inr ⟨_, rfl⟩⟩
    · exact .inl ⟨rfl, .inr ⟨_, rfl⟩⟩
    · have hinside : groups.idxOf last + 1 ≤ groups.length :=
        lt_of_le_of_ne List.idxOf_le_length hgone
      obtain ⟨added, hadded, hsub⟩ := fillPool_sublist q minPlayers
        (groups.drop (groups.idxOf last + 1)) .init
      rw [hadded]
      refine .inr ⟨rfl, _, _, (List.take_append_drop (groups.idxOf last + 1) groups).symm,
        (List.nil_append added).symm ▸ hsub, groups.idxOf last, ?_, rfl⟩
      rw [List.length_take_of_le hinside]
      exact Nat.lt_succ_self _

theorem movedBySkirmish_eq (q : BattlegroundQueue) (bracketId minPlayers : ℕ) :
    q.movedBySkirmish bracketId minPlayers =
      if (q.checkSkirmishForSameFaction bracketId minPlayers fun _ => 0).1 = true then
        (q.skirmishPool bracketId minPlayers).selectedGroups
      else [] := by
  rw [movedBySkirmish]
  dsimp only
  rcases checkSkirmish_cases q bracketId minPlayers fun _ => 0 with
    ⟨hstarts, -⟩ | ⟨hstarts, front, back, -, -, anchor, -, hafter⟩
  · rw [hstarts]
    rfl
  · rw [hstarts, if_pos rfl, if_pos rfl, hafter, moveSelected_selectionPools]
    simp only [BattlegroundQueue.setPool, if_true]

theorem movesOne_iff {minPlayers : ℕ} :
    q.MovesOne (.checkSkirmish bracketId minPlayers) ↔
      (q.movedBySkirmish bracketId minPlayers).length ≤ 1 := by
  rw [movedBySkirmish_eq]
  constructor
  · intro hone
    split_ifs with hstarts
    · obtain ⟨henough, -, hcount⟩ := checkSkirmish_starts_iff.mp hstarts
      exact hone henough hcount
    · exact Nat.zero_le _
  · intro hmoved henough hcount
    by_contra hmore
    have hlast : ∃ last ∈ (q.selectionPools (q.skirmishTeam minPlayers)).selectedGroups.getLast?,
        last ∈ q.queuedGroups bracketId (bgQueueNormal (q.skirmishTeam minPlayers)) := by
      -- otherwise no group would be behind it
      by_contra hnone
      refine hmore ?_
      rw [skirmishPool]
      cases hlast : (q.selectionPools (q.skirmishTeam minPlayers)).selectedGroups.getLast? with
      | none => exact Nat.zero_le _
      | some last =>
        have hgone : last ∉ q.queuedGroups bracketId (bgQueueNormal (q.skirmishTeam minPlayers)) :=
          fun hmem => hnone ⟨last, hlast, hmem⟩
        dsimp only
        rw [List.idxOf_eq_length hgone, List.drop_eq_nil_of_le (Nat.le_succ _)]
        exact Nat.zero_le _
    rw [if_pos (checkSkirmish_starts_iff.mpr ⟨henough, hlast, hcount⟩)] at hmoved
    exact hmore hmoved

theorem Structured.checkSkirmish (h : q.Structured) {minPlayers : ℕ}
    (hone : q.MovesOne (.checkSkirmish bracketId minPlayers)) :
    (q.checkSkirmishForSameFaction bracketId minPlayers fun _ => 0).2.Structured := by
  have hmoved := movesOne_iff.mp hone
  rw [movedBySkirmish_eq] at hmoved
  rcases checkSkirmish_cases q bracketId minPlayers fun _ => 0 with
    ⟨-, hafter | ⟨pool, hafter⟩⟩ | ⟨hstarts, front, back, hown, hsub, anchor, hanchor, hafter⟩
  · rw [hafter]
    exact h
  · rw [hafter]
    exact h.congr rfl rfl rfl rfl
  · rw [if_pos hstarts] at hmoved
    have hpool : (q.setPool (q.skirmishTeam minPlayers).other
        (q.skirmishPool bracketId minPlayers)).Structured := h.congr rfl rfl rfl rfl
    rw [hafter]
    match hselected : (q.skirmishPool bracketId minPlayers).selectedGroups with
    | [] => exact hpool
    | [group] =>
      rw [hselected, List.singleton_sublist] at hsub
      exact (moveToOther_spec hpool hown hsub hanchor).1
    | group :: next :: rest =>
      rw [hselected, List.length_cons, List.length_cons] at hmoved
      omega

/-! ## Rated matches -/

theorem moveToSide_groups (bracketId : ℕ) (side : Team) (group : ℕ) :
    (q.moveToSide bracketId side group).groups = q.groups := by
  rw [moveToSide]
  split_ifs <;> rfl

theorem moveToSide_queuedPlayers (bracketId : ℕ) (side : Team) (group : ℕ) :
    (q.moveToSide bracketId side group).queuedPlayers = q.queuedPlayers := by
  rw [moveToSide]
  split_ifs <;> rfl

theorem inviteGroupToBG_queuedGroups (now : BitVec 32) (group instanceId : ℕ)
    (side : Option Team) :
    (q.inviteGroupToBG now group instanceId side).queuedGroups = q.queuedGroups := rfl

theorem inviteGroupToBG_queuedPlayers (now : BitVec 32) (group instanceId : ℕ)
    (side : Option Team) :
    (q.inviteGroupToBG now group instanceId side).queuedPlayers = q.queuedPlayers := rfl

theorem inviteGroupToBG_moveToSide {other : ℕ} (hne : group ≠ other) (side : Team)
    (now : BitVec 32) (instanceId : ℕ) (side' : Option Team) :
    (q.moveToSide bracketId side group).inviteGroupToBG now other instanceId side' =
      (q.inviteGroupToBG now other instanceId side').moveToSide bracketId side group := by
  have hteam : ((q.inviteGroupToBG now other instanceId side').ginfo group) = q.ginfo group :=
    get_set_of_ne _ _ hne
  rw [moveToSide, moveToSide, hteam]
  split_ifs <;> rfl

theorem Structured.joinSide (h : q.Structured)
    (hmem : group ∈ q.queuedGroups bracketId (bgQueuePremade team)) (side : Team)
    (now : BitVec 32) (instanceId : ℕ) :
    ((q.moveToSide bracketId side group).inviteGroupToBG now group instanceId
      (some side)).Structured := by
  obtain ⟨info, hinfo, hbracket, hteam, hat⟩ := h.at_of_mem hmem
  have hsame : team = info.team := ofTeam_unique (.inl rfl) hteam
  by_cases hside : info.team = side
  · have hstay : q.moveToSide bracketId side group = q := by
      rw [moveToSide, ginfo_eq hinfo, if_neg (not_not.mpr hside)]
    rw [hstay]
    exact h.inviteGroupToBG now instanceId hinfo fun team hteam =>
      (Option.some.inj hteam) ▸ hside.symm
  · have hother : bgQueuePremade side.other = bgQueuePremade team := by
      revert hside
      rw [← hsame]
      cases side <;> cases team <;> simp [Team.other]
    have hne : bgQueuePremade side ≠ bgQueuePremade team := by
      revert hside
      rw [← hsame]
      cases side <;> cases team <;> simp [bgQueuePremade, Team.index]
    have hmove : q.moveToSide bracketId side group =
        (q.modifyList bracketId (bgQueuePremade side) (group :: ·)).modifyList bracketId
          (bgQueuePremade team) (·.erase group) := by
      rw [moveToSide, ginfo_eq hinfo, if_pos hside, hother]
    rw [hmove]
    have hlist : (q.queuedGroups bracketId (bgQueuePremade team)).count group = 1 := by
      rw [hat, if_pos ⟨rfl, rfl⟩]
    have hremove : ∀ other, ((q.queuedGroups bracketId (bgQueuePremade team)).erase group).count
        other = if other = group then 0 else
          (q.queuedGroups bracketId (bgQueuePremade team)).count other := by
      intro other
      split_ifs with heq
      · rw [heq, List.count_erase_self, hlist]
      · rw [List.count_erase_of_ne heq]
    have hmoved : Relocated q (((q.modifyList bracketId (bgQueuePremade side)
        (group :: ·)).modifyList bracketId (bgQueuePremade team)
          (·.erase group)).inviteGroupToBG now
          group instanceId (some side)) group ((q.ginfo group).invite now instanceId (some side))
            bracketId (bgQueuePremade side) := by
      have hlists : (((q.modifyList bracketId (bgQueuePremade side)
          (group :: ·)).modifyList bracketId (bgQueuePremade team) (·.erase group)).inviteGroupToBG
            now group instanceId (some side)).queuedGroups =
          ((q.modifyList bracketId (bgQueuePremade side) (group :: ·)).modifyList bracketId
            (bgQueuePremade team) (·.erase group)).queuedGroups := rfl
      exact relocated_move hat hne hremove (fun other => find?_set _ _ _ _) rfl rfl hlists
    refine hmoved.structured h hinfo ?_ hbracket ?_
    · rw [invite_players, ginfo_eq hinfo]
    · rw [invite_team]
      exact .inl rfl

theorem Structured.recordOpponents (h : q.Structured)
    {a b : GroupQueueInfo} (ha : q.groups.find? aTeam = some a) (hb : q.groups.find? hTeam = some b)
    (hne : aTeam ≠ hTeam) : (q.recordOpponents aTeam hTeam).Structured := by
  rw [BattlegroundQueue.recordOpponents]
  refine (h.setGroup ha ?_ ?_).setGroup
    ((find?_set_of_ne _ _ hne.symm).trans hb) ?_ ?_
  all_goals rw [ginfo_eq ‹_›]

theorem sameFactionOpponent_spec {groups : List ℕ} {found opponent : ℕ}
    (h : q.sameFactionOpponent env arenaRating groups found = some opponent) :
    opponent ∈ groups ∧ q.matchesRating env arenaRating opponent = true ∧
      (q.ginfo found).arenaTeamId ≠ (q.ginfo opponent).arenaTeamId := by
  have hcond := List.find?_some h
  rw [Bool.and_eq_true, decide_eq_true_iff] at hcond
  exact ⟨List.mem_of_mem_drop (List.mem_of_find?_eq_some h), hcond⟩

theorem ratedPair_mem (h : q.Structured)
    (hpair : q.ratedPair env bracketId arenaRating = some (aTeam, hTeam)) :
    (∃ team, aTeam ∈ q.queuedGroups bracketId (bgQueuePremade team)) ∧
      (∃ team, hTeam ∈ q.queuedGroups bracketId (bgQueuePremade team)) ∧ aTeam ≠ hTeam := by
  rw [ratedPair] at hpair
  split at hpair
  · next a b ha hb =>
    cases hpair
    have hamem := List.mem_of_find?_eq_some ha
    have hbmem := List.mem_of_find?_eq_some hb
    refine ⟨⟨_, hamem⟩, ⟨_, hbmem⟩, fun heq => ?_⟩
    obtain ⟨-, -, -, -, hat⟩ := h.at_of_mem hamem
    exact absurd (hat.unique (heq ▸ hbmem)).2 (by decide)
  · next a ha hb =>
    obtain ⟨b, hopponent, heq⟩ := Option.map_eq_some_iff.mp hpair
    obtain ⟨rfl, rfl⟩ := Prod.mk.inj heq
    obtain ⟨hmem, -, hids⟩ := sameFactionOpponent_spec hopponent
    exact ⟨⟨_, List.mem_of_find?_eq_some ha⟩, ⟨_, hmem⟩, fun heq => hids (heq ▸ rfl)⟩
  · next b ha hb =>
    obtain ⟨a, hopponent, heq⟩ := Option.map_eq_some_iff.mp hpair
    obtain ⟨rfl, rfl⟩ := Prod.mk.inj heq
    obtain ⟨hmem, -, hids⟩ := sameFactionOpponent_spec hopponent
    exact ⟨⟨_, List.mem_of_find?_eq_some hb⟩, ⟨_, hmem⟩, fun heq => hids (heq ▸ rfl)⟩
  · cases hpair

theorem mem_moveToSide {other : ℕ} {side : Team} (hne : other ≠ group)
    {bracketId' : ℕ} (hmem : other ∈ q.queuedGroups bracketId' index) :
    other ∈ (q.moveToSide bracketId side group).queuedGroups bracketId' index := by
  rw [moveToSide]
  split_ifs
  · simp only [modifyList]
    split_ifs
    · exact (List.mem_erase_of_ne hne).mpr (List.mem_cons_of_mem _ hmem)
    · exact (List.mem_erase_of_ne hne).mpr hmem
    · exact List.mem_cons_of_mem _ hmem
    · exact hmem
  · exact hmem

theorem ratedStart_spec {arena : ℕ}
    (h : q.ratedStart env bracketId arenaRating = some (aTeam, hTeam, arena)) :
    ∃ rating, q.soughtRating bracketId arenaRating = some rating ∧
      q.ratedPair env bracketId rating = some (aTeam, hTeam) ∧ env.newArena = some arena := by
  obtain ⟨rating, hrating, h⟩ := Option.bind_eq_some_iff.mp h
  obtain ⟨pair, hpair, h⟩ := Option.bind_eq_some_iff.mp h
  obtain ⟨arena', harena, heq⟩ := Option.map_eq_some_iff.mp h
  obtain ⟨rfl, rfl, rfl⟩ : pair.1 = aTeam ∧ pair.2 = hTeam ∧ arena' = arena := by
    simpa using heq
  exact ⟨rating, hrating, hpair, harena⟩

theorem Structured.ratedMatch (h : q.Structured) (env : RatedEnv) (bracketId : ℕ)
    (arenaRating : BitVec 32) : (q.ratedMatch env bracketId arenaRating).Structured := by
  rw [BattlegroundQueue.ratedMatch]
  split
  · exact h
  · next aTeam hTeam arena hstart =>
    obtain ⟨rating, -, hpair, -⟩ := ratedStart_spec hstart
    obtain ⟨⟨aSide, ha⟩, ⟨hSide, hh⟩, hne⟩ := ratedPair_mem h hpair
    obtain ⟨a, hainfo, -⟩ := h.at_of_mem ha
    obtain ⟨b, hbinfo, -⟩ := h.at_of_mem hh
    have hrecorded := h.recordOpponents hainfo hbinfo hne
    have hthere : hTeam ∈ ((q.recordOpponents aTeam hTeam).moveToSide bracketId .alliance
        aTeam).queuedGroups bracketId (bgQueuePremade hSide) := mem_moveToSide hne.symm hh
    rw [inviteGroupToBG_moveToSide hne.symm]
    exact (hrecorded.joinSide ha .alliance env.now arena).joinSide hthere .horde env.now arena

/-! ## Every run -/

theorem Structured.step (h : q.Structured) {op : Op} (hallowed : q.Allowed op)
    (hone : q.MovesOne op) : ∃ q', q.step op = some q' ∧ q'.Structured := by
  cases op with
  | addGroup now join => exact ⟨_, rfl, h.addGroup now hallowed⟩
  | removePlayer guid => exact ⟨_, rfl, h.removePlayer guid⟩
  | inviteGroupToBG now group instanceId side =>
    obtain ⟨info, hinfo⟩ := Option.isSome_iff_exists.mp hallowed.1
    exact ⟨_, rfl, h.inviteGroupToBG now instanceId hinfo (ginfo_eq hinfo ▸ hallowed.2)⟩
  | initPools => exact ⟨_, rfl, h.congr rfl rfl rfl rfl⟩
  | checkPremadeMatch now premadeWait bracketId minPlayers maxPlayers =>
    exact ⟨_, rfl, h.checkPremadeMatch now premadeWait bracketId minPlayers maxPlayers⟩
  | checkNormalMatch env bracketId minPlayers maxPlayers =>
    exact ⟨_, rfl, h.checkNormalMatch env bracketId minPlayers maxPlayers⟩
  | checkSkirmish bracketId minPlayers =>
    exact ⟨_, if_pos (movesOne_iff.mp hone), h.checkSkirmish hone⟩
  | ratedMatch env bracketId arenaRating => exact ⟨_, rfl, h.ratedMatch env bracketId arenaRating⟩

/-- **What is right of a queue**: groups, lists and players agree, and a player who is queued can
leave, with everyone of a rated group that is not invited. -/
structure Right (q : BattlegroundQueue) : Prop where
  structured : q.Structured
  leaves : ∀ guid player, q.queuedPlayers.find? guid = some player → ∃ info,
    q.groups.find? player.groupInfo = some info ∧
    (q.removePlayer guid).queuedPlayers.find? guid = none ∧
    (info.isInvitedToBGInstanceGUID = 0 → info.isRated = true →
      (q.removePlayer guid).groups.find? player.groupInfo = none ∧
      ∀ other ∈ info.players, (q.removePlayer guid).queuedPlayers.find? other = none)

theorem Structured.right (h : q.Structured) : q.Right := by
  refine ⟨h, fun guid player hplayer => ?_⟩
  obtain ⟨info, hinfo⟩ := h.queued guid player hplayer
  obtain ⟨-, hleaves⟩ := removePlayer_spec h hplayer hinfo
  exact ⟨info, hinfo, (hleaves guid).1 (.inl rfl), fun huninvited hrated =>
    ⟨removePlayer_gone h hplayer hinfo ⟨huninvited, hrated⟩, fun other hother =>
      (hleaves other).1 (.inr ⟨⟨huninvited, hrated⟩, hother⟩)⟩⟩

/-- Players of the alliance who queue for a skirmish of two against two. -/
def skirmishJoin (leader : Guid) (grp : Option (List Guid)) : QueueJoin :=
  ⟨leader, .alliance, grp, 6, 0, 2, false, false, 0, 0, 0⟩

/-- Four players queue alone, and two of them change sides. -/
def fourPlayers : List Op :=
  [.addGroup 0 (skirmishJoin 1 none), .addGroup 0 (skirmishJoin 2 none),
    .addGroup 0 (skirmishJoin 3 none), .addGroup 0 (skirmishJoin 4 none), .initPools,
    .checkNormalMatch ⟨false, false, false⟩ 0 2 2, .checkSkirmish 0 2]

end BattlegroundQueue

end TeraCore
