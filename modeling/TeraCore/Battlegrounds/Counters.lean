import TeraCore.Battlegrounds.Battleground
import TeraCore.Battlegrounds.QueueStructure

/-!
# Battlegrounds: the counters

The players of a team who are counted are the entries of that team in the map.  Those who are
counted as invited are, besides, the players in the queue whose group is invited for that team.

Two things break this.  A player of an invited group who is not in the world is not counted, but
still leaves the queue with a decrease.  A player who logs out without having joined gets an entry
without a team, and is later removed from the horde.

## Main results

* `Battleground.add_getFreeSlotsForTeam_le`: the free slots are within the maximum
* `counted_run`: the counters after every run
-/

namespace TeraCore

open Commons OrderedMap

theorem getTeamIndexByTeamId_some (team : Team) : getTeamIndexByTeamId (some team) = team := by
  cases team <;> rfl

/-! ## Free slots -/

namespace Battleground

/-- The players of a team in the map. -/
def members (bg : Battleground) (team : Team) : ℕ :=
  bg.players.values.countP fun player => player.team = some team

variable {bg : Battleground} {guid : Guid}

theorem members_addPlayer (hnew : bg.players.find? guid = none) (team team' : Team) :
    (bg.addPlayer guid team).members team' =
      bg.members team' + if team' = team then 1 else 0 := by
  have hcount := countP_values_set_of_none hnew ⟨0, some team⟩
    fun player => decide (player.team = some team')
  refine hcount.trans ?_
  rw [members]
  by_cases heq : team' = team
  · simp [heq]
  · simp [heq, Ne.symm heq]

theorem members_setOfflineRemoveTime {player : BattlegroundPlayer}
    (hplayer : bg.players.find? guid = some player) (time : ℕ) (team : Team) :
    (bg.setOfflineRemoveTime guid time).members team = bg.members team := by
  have hcount := countP_values_set hplayer { player with offlineRemoveTime := time }
    fun player => decide (player.team = some team)
  rw [setOfflineRemoveTime, members, members]
  dsimp only
  rw [hplayer, Option.getD_some]
  simp only [decide_eq_true_eq] at hcount
  omega

theorem members_erase {player : BattlegroundPlayer}
    (hplayer : bg.players.find? guid = some player) {team : Team} (hteam : player.team = some team)
    (team' : Team) :
    (bg.players.erase guid).values.countP (fun player => player.team = some team') +
      (if team' = team then 1 else 0) = bg.members team' := by
  have hcount := countP_values_erase hplayer
    fun player => decide (player.team = some team')
  rw [members]
  by_cases heq : team' = team
  · simp only [hteam, heq, decide_true, if_true] at hcount ⊢
    omega
  · have hne : ¬team = team' := fun h => heq h.symm
    simp [hteam, heq, hne] at hcount ⊢
    omega

end Battleground

/-! ## Who is invited -/

namespace BgWorld

/-- The players who are invited for a team and have not answered. -/
def waitingPlayers (w : BgWorld) (team : Team) : List Guid :=
  w.queue.queuedPlayers.keys.filter fun guid => w.invitedTeam guid = some team

/-- How many players are invited for a team and have not answered. -/
def waiting (w : BgWorld) (team : Team) : ℕ := (w.waitingPlayers team).length

variable {w w' : BgWorld} {team side : Team} {guid : Guid} {now : BitVec 32} {bracketId group : ℕ}
  {inWorld : Guid → Bool}

theorem mem_waitingPlayers :
    guid ∈ w.waitingPlayers team ↔ w.invitedTeam guid = some team := by
  rw [waitingPlayers, List.mem_filter, decide_eq_true_iff, and_iff_right_iff_imp]
  intro hteam
  obtain ⟨player, hplayer, -⟩ := Option.bind_eq_some_iff.mp hteam
  exact mem_keys.mpr ⟨player, hplayer⟩

theorem nodup_waitingPlayers (team : Team) : (w.waitingPlayers team).Nodup :=
  w.queue.queuedPlayers.keys_nodup.filter _

theorem waiting_eq {guids : List Guid} (hnodup : guids.Nodup)
    (hmem : ∀ guid, guid ∈ guids ↔ w.invitedTeam guid = some team) :
    w.waiting team = guids.length :=
  ((List.perm_ext_iff_of_nodup (nodup_waitingPlayers team) hnodup).mpr fun guid =>
    mem_waitingPlayers.trans (hmem guid).symm).length_eq

theorem waiting_congr (h : ∀ guid, w'.invitedTeam guid = w.invitedTeam guid) (team : Team) :
    w'.waiting team = w.waiting team :=
  waiting_eq (nodup_waitingPlayers team) fun guid => by rw [mem_waitingPlayers, h]

theorem waiting_answer (hteam : w.invitedTeam guid = some team)
    (h : ∀ other, w'.invitedTeam other = if other = guid then none else w.invitedTeam other)
    (team' : Team) : w'.waiting team' + (if team' = team then 1 else 0) = w.waiting team' := by
  have hlist : w'.waiting team' = ((w.waitingPlayers team').erase guid).length := by
    refine waiting_eq ((nodup_waitingPlayers team').erase guid) fun other => ?_
    rw [(nodup_waitingPlayers team').mem_erase_iff, mem_waitingPlayers, h]
    split_ifs with heq
    · simp [heq]
    · simp [heq]
  rw [hlist, waiting]
  split_ifs with heq
  · have hmem : guid ∈ w.waitingPlayers team' := mem_waitingPlayers.mpr (heq ▸ hteam)
    rw [List.length_erase_of_mem hmem]
    exact Nat.sub_add_cancel (List.length_pos_of_mem hmem)
  · rw [List.erase_of_not_mem fun hmem => heq ?_]
    · rfl
    · exact Option.some.inj ((mem_waitingPlayers.mp hmem).symm.trans hteam)

theorem waiting_invite {guids : List Guid} (hnodup : guids.Nodup)
    (hnone : ∀ guid ∈ guids, w.invitedTeam guid = none)
    (h : ∀ guid, w'.invitedTeam guid = if guid ∈ guids then some side else w.invitedTeam guid)
    (team : Team) :
    w'.waiting team = w.waiting team + if team = side then guids.length else 0 := by
  by_cases heq : team = side
  · have hlength : w.waiting team + guids.length = (w.waitingPlayers team ++ guids).length :=
      List.length_append.symm
    rw [if_pos heq, hlength]
    refine waiting_eq (List.Nodup.append (nodup_waitingPlayers team) hnodup ?_) fun guid => ?_
    · intro guid hwaiting hguid
      rw [mem_waitingPlayers, hnone guid hguid] at hwaiting
      cases hwaiting
    · rw [List.mem_append, mem_waitingPlayers, h, heq]
      by_cases hguid : guid ∈ guids
      · simp [hguid]
      · simp [hguid]
  · rw [if_neg heq, Nat.add_zero]
    refine waiting_eq (nodup_waitingPlayers team) fun guid => ?_
    rw [mem_waitingPlayers, h]
    by_cases hguid : guid ∈ guids
    · rw [if_pos hguid, hnone guid hguid]
      simp [Ne.symm heq]
    · rw [if_neg hguid]

/-! ## The queue -/

theorem removePlayerTurns_info : ∀ (turns : ℕ) {q : BattlegroundQueue} {guid : Guid}
    {group : ℕ} {info : GroupQueueInfo}, q.Structured →
    (BattlegroundQueue.removePlayerTurns turns q guid).groups.find? group = some info →
    ∃ old, q.groups.find? group = some old ∧ info = { old with players := info.players }
  | 0, q, _, _, info, _, hinfo => ⟨info, hinfo, rfl⟩
  | turns + 1, q, guid, group, info, h, hinfo => by
    rw [BattlegroundQueue.removePlayerTurns] at hinfo
    cases hplayer : q.queuedPlayers.find? guid with
    | none =>
      rw [hplayer] at hinfo
      exact ⟨info, hinfo, rfl⟩
    | some player =>
      obtain ⟨old, hold⟩ := h.queued guid player hplayer
      obtain ⟨bracketId, index, hfound, -, -⟩ := h.findGroup hold
      rw [hplayer] at hinfo
      dsimp only at hinfo
      rw [hfound] at hinfo
      rw [BattlegroundQueue.ginfo_eq hold] at hinfo
      have hset : ∀ info', (q.groups.set player.groupInfo
          { old with players := old.players.erase guid }).find? group = some info' →
          ∃ old', q.groups.find? group = some old' ∧
            info' = { old' with players := info'.players } := by
        intro info' hinfo'
        rw [find?_set] at hinfo'
        split_ifs at hinfo' with heq
        · exact ⟨old, heq ▸ hold, (Option.some.inj hinfo') ▸ rfl⟩
        · exact ⟨info', hinfo', rfl⟩
      cases hleft : (old.players.erase guid).elems with
      | nil =>
        rw [hleft] at hinfo
        change ((q.groups.set player.groupInfo _).erase player.groupInfo).find? group = _ at hinfo
        rw [find?_erase] at hinfo
        split_ifs at hinfo with heq
        exact hset info hinfo
      | cons next rest =>
        rw [hleft] at hinfo
        split_ifs at hinfo
        · have hnext : next ∈ old.players.erase guid := by
            rw [← OrderedSet.mem_elems, hleft]
            exact List.mem_cons_self
          obtain ⟨old', hold', heq⟩ := removePlayerTurns_info turns
            (h.leave hplayer hold ⟨next, hnext⟩) hinfo
          obtain ⟨old'', hold'', heq'⟩ := hset old' hold'
          exact ⟨old'', hold'', heq.trans (heq' ▸ rfl)⟩
        · exact hset info hinfo

theorem invitedTeam_eq {player : PlayerQueueInfo}
    (hplayer : w.queue.queuedPlayers.find? guid = some player) :
    w.invitedTeam guid =
      if (w.queue.ginfo player.groupInfo).isInvitedToBGInstanceGUID = w.bg.instanceId then
        some (w.queue.ginfo player.groupInfo).team
      else none := by
  rw [invitedTeam, hplayer, Option.bind_some]

theorem invitedTeam_of_none (hplayer : w.queue.queuedPlayers.find? guid = none) :
    w.invitedTeam guid = none := by
  rw [invitedTeam, hplayer, Option.bind_none]

/-- **The queue after an answer**: nobody else's invitation changes. -/
theorem invitedTeam_removePlayer (h : w.queue.Structured) (hid : w.bg.instanceId ≠ 0) (guid : Guid)
    (hqueue : w'.queue = w.queue.removePlayer guid) (hbg : w'.bg.instanceId = w.bg.instanceId)
    (other : Guid) :
    w'.invitedTeam other = if other = guid then none else w.invitedTeam other := by
  have hsame : w'.queue.queuedPlayers.find? other = w.queue.queuedPlayers.find? other →
      w'.queue.Structured → w'.invitedTeam other = w.invitedTeam other := by
    intro hfind hstructured
    cases hplayer : w.queue.queuedPlayers.find? other with
    | none => rw [invitedTeam_of_none hplayer, invitedTeam_of_none (hfind.trans hplayer)]
    | some player =>
      obtain ⟨info, hinfo⟩ := hstructured.queued other player (hfind.trans hplayer)
      obtain ⟨old, hold, heq⟩ := removePlayerTurns_info _ h (hqueue ▸ hinfo)
      rw [invitedTeam_eq hplayer, invitedTeam_eq (hfind.trans hplayer), hbg,
        BattlegroundQueue.ginfo_eq hinfo, BattlegroundQueue.ginfo_eq hold, heq]
  have hstructured : w'.queue.Structured := hqueue ▸ h.removePlayer guid
  cases hplayer : w.queue.queuedPlayers.find? guid with
  | none =>
    have hstays : w'.queue = w.queue := by
      rw [hqueue, BattlegroundQueue.removePlayer]
      cases w.queue.queuedPlayers.size with
      | zero => rfl
      | succ turns => rw [BattlegroundQueue.removePlayerTurns, hplayer]
    split_ifs with heq
    · exact invitedTeam_of_none (by rw [hstays, heq, hplayer])
    · exact hsame (by rw [hstays]) hstructured
  | some player =>
    obtain ⟨info, hinfo⟩ := h.queued guid player hplayer
    obtain ⟨-, hothers⟩ := BattlegroundQueue.removePlayer_spec h hplayer hinfo
    rw [← hqueue] at hothers
    split_ifs with heq
    · exact invitedTeam_of_none ((hothers other).1 (.inl heq))
    · by_cases hleaves : BattlegroundQueue.LeavesWith info guid other
      · -- Those who leave with the player are not invited.
        obtain ⟨⟨huninvited, -⟩, hmem⟩ := hleaves.resolve_left heq
        obtain ⟨player', hplayer', hgroup⟩ := (h.players _ info hinfo other).mp hmem
        rw [invitedTeam_of_none ((hothers other).1 hleaves), invitedTeam_eq hplayer', hgroup,
          BattlegroundQueue.ginfo_eq hinfo, huninvited, if_neg hid.symm]
      · exact hsame ((hothers other).2 hleaves) hstructured

theorem invitedTeam_addGroup (h : w.queue.Structured) (hid : w.bg.instanceId ≠ 0)
    {join : QueueJoin} (hallowed : w.queue.Allowed (.addGroup now join))
    (guid : Guid) : (w.step (.addGroup now join)).invitedTeam guid = w.invitedTeam guid := by
  have hfind : (w.queue.addGroup now join).queuedPlayers.find? guid =
      if guid ∈ join.members then some ⟨now, w.queue.nextGroup⟩
      else w.queue.queuedPlayers.find? guid :=
    BattlegroundQueue.find?_foldl_set _ guid join.members w.queue.queuedPlayers
  by_cases hguid : guid ∈ join.members
  · have hnone : w.queue.queuedPlayers.find? guid = none :=
      Option.not_isSome_iff_eq_none.mp (Bool.eq_false_iff.mp (hallowed.2.2 guid hguid))
    rw [if_pos hguid] at hfind
    rw [invitedTeam_of_none hnone, invitedTeam_eq hfind]
    have hnew : ((w.queue.addGroup now join).ginfo
        w.queue.nextGroup).isInvitedToBGInstanceGUID = 0 := by
      rw [BattlegroundQueue.ginfo]
      exact congrArg GroupQueueInfo.isInvitedToBGInstanceGUID (get_set_self _ _ _)
    exact if_neg fun heq => hid (heq.symm.trans hnew)
  · rw [if_neg hguid] at hfind
    cases hplayer : w.queue.queuedPlayers.find? guid with
    | none => rw [invitedTeam_of_none hplayer, invitedTeam_of_none (hfind.trans hplayer)]
    | some player =>
      obtain ⟨info, hinfo⟩ := h.queued guid player hplayer
      have hsame : (w.queue.addGroup now join).ginfo player.groupInfo =
          w.queue.ginfo player.groupInfo :=
        get_set_of_ne _ _ (h.fresh _ info hinfo).ne
      have hplayer' : (w.step (.addGroup now join)).queue.queuedPlayers.find? guid = some player :=
        hfind.trans hplayer
      have hsame' : (w.step (.addGroup now join)).queue.ginfo player.groupInfo =
          w.queue.ginfo player.groupInfo := hsame
      rw [invitedTeam_eq hplayer, invitedTeam_eq hplayer', hsame']
      rfl

/-! ## An invitation -/

theorem inviteGroup_groups (now : BitVec 32) (bracketId : ℕ) (side : Team)
    (inWorld : Guid → Bool) (group : ℕ) :
    (w.inviteGroup now bracketId side inWorld group).queue.groups = w.queue.groups.set group
      ((w.queue.ginfo group).invite now w.bg.instanceId (some side)) := by
  rw [inviteGroup]
  rw [BattlegroundQueue.inviteGroupToBG, BattlegroundQueue.setGroup, BattlegroundQueue.ginfo,
    BattlegroundQueue.moveToSide_groups]
  rfl

theorem inviteGroup_queuedPlayers (now : BitVec 32) (bracketId : ℕ) (side : Team)
    (inWorld : Guid → Bool) (group : ℕ) :
    (w.inviteGroup now bracketId side inWorld group).queue.queuedPlayers =
      w.queue.queuedPlayers := by
  rw [inviteGroup]
  exact (BattlegroundQueue.inviteGroupToBG_queuedPlayers _ _ _ _).trans
    (BattlegroundQueue.moveToSide_queuedPlayers _ _ _)

theorem inviteGroup_ginfo (now : BitVec 32) (bracketId : ℕ) (side : Team)
    (inWorld : Guid → Bool) (group other : ℕ) :
    (w.inviteGroup now bracketId side inWorld group).queue.ginfo other =
      if other = group then (w.queue.ginfo group).invite now w.bg.instanceId (some side)
      else w.queue.ginfo other := by
  rw [BattlegroundQueue.ginfo, inviteGroup_groups]
  split_ifs with heq
  · rw [heq, get_set_self]
  · exact get_set_of_ne _ _ heq

theorem foldl_increase (side : Team) : ∀ (guids : List Guid) (bg : Battleground),
    guids.foldl (fun bg _ => bg.increaseInvitedCount (some side)) bg =
      { bg with
        invitedCount := fun team =>
          bg.invitedCount team + if team = side then guids.length else 0 }
  | [], bg => by simp
  | guid :: guids, bg => by
    rw [List.foldl_cons, foldl_increase side guids, Battleground.increaseInvitedCount]
    dsimp only
    congr 1
    funext team
    rw [getTeamIndexByTeamId_some, List.length_cons]
    split_ifs <;> omega

theorem inviteGroup_bg (now : BitVec 32) (bracketId : ℕ) (side : Team) (inWorld : Guid → Bool)
    (group : ℕ) : (w.inviteGroup now bracketId side inWorld group).bg =
      { w.bg with
        invitedCount := fun team => w.bg.invitedCount team +
          if team = side ∧ w.queue.uninvited group = true then
            ((w.queue.ginfo group).players.elems.filter inWorld).length else 0 } := by
  rw [inviteGroup]
  cases huninvited : w.queue.uninvited group with
  | false => simp
  | true =>
    rw [if_pos rfl, foldl_increase]
    simp

/-- A group that is selected for a side: one of the team, or one that a rated match takes. -/
def Invitable (w : BgWorld) (bracketId : ℕ) (side : Team) (group : ℕ) : Prop :=
  (w.queue.groups.contains group = true ∧ (w.queue.ginfo group).team = side) ∨
    w.queue.uninvited group = true ∧
      (group ∈ w.queue.queuedGroups bracketId (bgQueuePremade .alliance) ∨
        group ∈ w.queue.queuedGroups bracketId (bgQueuePremade .horde))

/-- Everyone of the group is in the world. -/
def Present (w : BgWorld) (inWorld : Guid → Bool) (group : ℕ) : Prop :=
  ∀ guid ∈ (w.queue.ginfo group).players.elems, inWorld guid = true

theorem structured_inviteGroup (h : w.queue.Structured) (now : BitVec 32) (inWorld : Guid → Bool)
    (hgroup : w.Invitable bracketId side group) :
    (w.inviteGroup now bracketId side inWorld group).queue.Structured := by
  rcases hgroup with ⟨hthere, hside⟩ | ⟨-, hmem | hmem⟩
  · obtain ⟨info, hinfo⟩ := Option.isSome_iff_exists.mp hthere
    have hstay : w.queue.moveToSide bracketId side group = w.queue := by
      rw [BattlegroundQueue.moveToSide, if_neg (not_not.mpr hside)]
    rw [inviteGroup]
    rw [hstay]
    refine h.inviteGroupToBG now _ hinfo fun team hteam => ?_
    rw [← Option.some.inj hteam, ← hside, BattlegroundQueue.ginfo_eq hinfo]
  · exact h.joinSide hmem side now w.bg.instanceId
  · exact h.joinSide hmem side now w.bg.instanceId

theorem invitedTeam_inviteGroup_of_invited (hgroup : w.Invitable bracketId side group)
    (hinvited : w.queue.uninvited group = false) (guid : Guid) :
    (w.inviteGroup now bracketId side inWorld group).invitedTeam guid = w.invitedTeam guid := by
  have hside : (w.queue.ginfo group).team = side := by
    rcases hgroup with ⟨-, hside⟩ | ⟨huninvited, -⟩
    · exact hside
    · rw [hinvited] at huninvited
      cases huninvited
  have hsame : (w.queue.ginfo group).invite now w.bg.instanceId (some side) =
      w.queue.ginfo group := by
    rw [BattlegroundQueue.uninvited, beq_eq_false_iff_ne] at hinvited
    rw [GroupQueueInfo.invite]
    rw [if_neg hinvited, Option.getD_some, ← hside]
  rw [invitedTeam, invitedTeam, inviteGroup_queuedPlayers]
  simp only [inviteGroup_ginfo, hsame, inviteGroup_bg]
  congr 1
  funext player
  by_cases heq : player.groupInfo = group
  · rw [if_pos heq, heq]
  · rw [if_neg heq]

theorem invitedTeam_inviteGroup (h : w.queue.Structured) {info : GroupQueueInfo}
    (hinfo : w.queue.groups.find? group = some info)
    (huninvited : w.queue.uninvited group = true) (guid : Guid) :
    (w.inviteGroup now bracketId side inWorld group).invitedTeam guid =
      if guid ∈ info.players.elems then some side else w.invitedTeam guid := by
  rw [BattlegroundQueue.uninvited, beq_iff_eq] at huninvited
  have hinvite : (w.queue.ginfo group).invite now w.bg.instanceId (some side) =
      { w.queue.ginfo group with
        team := side
        isInvitedToBGInstanceGUID := w.bg.instanceId
        removeInviteTime := now + inviteAcceptWaitTime } := if_pos huninvited
  cases hplayer : w.queue.queuedPlayers.find? guid with
  | none =>
    have hnot : guid ∉ info.players.elems := fun hmem => by
      obtain ⟨player, hfound, -⟩ := (h.players group info hinfo guid).mp hmem
      rw [hplayer] at hfound
      cases hfound
    rw [if_neg hnot, invitedTeam_of_none hplayer, invitedTeam_of_none]
    rw [inviteGroup_queuedPlayers, hplayer]
  | some player =>
    have hplayer' : (w.inviteGroup now bracketId side inWorld group).queue.queuedPlayers.find?
        guid = some player := by
      rw [inviteGroup_queuedPlayers, hplayer]
    have hmem : guid ∈ info.players.elems ↔ player.groupInfo = group := by
      rw [OrderedSet.mem_elems, h.players group info hinfo guid, hplayer]
      simp
    rw [invitedTeam_eq hplayer', invitedTeam_eq hplayer, inviteGroup_ginfo, inviteGroup_bg, hinvite]
    by_cases heq : player.groupInfo = group
    · rw [if_pos heq, if_pos rfl, if_pos (hmem.mpr heq)]
    · rw [if_neg heq, if_neg fun hin => heq (hmem.mp hin)]

/-! ## The counters -/

/-- **The counters are the numbers of players.** -/
structure Counted (w : BgWorld) : Prop where
  structured : w.queue.Structured
  id : w.bg.instanceId ≠ 0
  teams : ∀ guid player, w.bg.players.find? guid = some player → ∃ team, player.team = some team
  players : ∀ team, w.bg.playersCount team = w.bg.members team
  invited : ∀ team, w.bg.invitedCount team = w.waiting team + w.bg.members team

theorem decrease_add_one {n : ℕ} (h : 0 < n) : decrease n + 1 = n := by
  cases n with
  | zero => omega
  | succ n => rfl

theorem Counted.addGroup (h : w.Counted) {join : QueueJoin}
    (hallowed : w.queue.Allowed (.addGroup now join)) : (w.step (.addGroup now join)).Counted :=
  ⟨h.structured.addGroup now hallowed, h.id, h.teams, h.players, fun team => by
    rw [waiting_congr (invitedTeam_addGroup h.structured h.id hallowed)]
    exact h.invited team⟩

theorem Counted.inviteGroup (h : w.Counted) (hgroup : w.Invitable bracketId side group)
    (hpresent : w.queue.uninvited group = true → w.Present inWorld group) :
    (w.inviteGroup now bracketId side inWorld group).Counted := by
  have hstructured := structured_inviteGroup h.structured now inWorld hgroup
  have hinfo : ∃ info, w.queue.groups.find? group = some info := by
    rcases hgroup with ⟨hthere, -⟩ | ⟨-, hmem | hmem⟩
    · exact Option.isSome_iff_exists.mp hthere
    · exact h.structured.listed _ _ _ hmem
    · exact h.structured.listed _ _ _ hmem
  obtain ⟨info, hinfo⟩ := hinfo
  have hbg := inviteGroup_bg (w := w) now bracketId side inWorld group
  refine ⟨hstructured, ?_, ?_, ?_, fun team => ?_⟩
  · rw [hbg]
    exact h.id
  · rw [hbg]
    exact h.teams
  · rw [hbg]
    exact h.players
  rw [hbg, BattlegroundQueue.ginfo_eq hinfo]
  show w.bg.invitedCount team + _ = _ + w.bg.members team
  cases huninvited : w.queue.uninvited group with
  | false =>
    rw [waiting_congr (invitedTeam_inviteGroup_of_invited hgroup huninvited), h.invited]
    simp
  | true =>
    have hall : info.players.elems.filter inWorld = info.players.elems := by
      refine List.filter_eq_self.mpr fun guid hguid => hpresent huninvited guid ?_
      rwa [BattlegroundQueue.ginfo_eq hinfo]
    have hnone : ∀ guid ∈ info.players.elems, w.invitedTeam guid = none := by
      intro guid hguid
      obtain ⟨player, hplayer, hsame⟩ := (h.structured.players group info hinfo guid).mp hguid
      rw [BattlegroundQueue.uninvited, beq_iff_eq] at huninvited
      rw [invitedTeam_eq hplayer, hsame, huninvited, if_neg h.id.symm]
    rw [hall, waiting_invite info.players.nodup hnone
      (invitedTeam_inviteGroup h.structured hinfo huninvited), h.invited]
    by_cases heq : team = side
    · rw [if_pos ⟨heq, rfl⟩, if_pos heq]
      omega
    · rw [if_neg fun hboth => heq hboth.1, if_neg heq]
      omega

theorem removePlayerAtLeave_eq {bg : Battleground} {player : BattlegroundPlayer}
    (hplayer : bg.players.find? guid = some player)
    (hteam : player.team = some team) (faction : Option Team) :
    bg.removePlayerAtLeave guid faction =
      { bg with
        players := bg.players.erase guid
        playersCount := fun team' =>
          if team' = team then decrease (bg.playersCount team') else bg.playersCount team'
        invitedCount := fun team' =>
          if team' = team then decrease (bg.invitedCount team') else bg.invitedCount team' } := by
  rw [Battleground.removePlayerAtLeave, hplayer]
  dsimp only
  rw [Battleground.getPlayerTeam, hplayer, Option.bind_some, hteam, Option.some_or,
    Battleground.updatePlayersCountByTeam, Battleground.decreaseInvitedCount,
    getTeamIndexByTeamId_some]
  rfl

theorem Counted.leave (h : w.Counted) (guid : Guid) (faction : Option Team) :
    (w.step (.leave guid faction)).Counted := by
  cases hplayer : w.bg.players.find? guid with
  | none =>
    have hstays : w.step (.leave guid faction) = w := by
      rw [BgWorld.step, Battleground.removePlayerAtLeave, hplayer]
    rwa [hstays]
  | some player =>
    obtain ⟨team, hteam⟩ := h.teams guid player hplayer
    have hleft := removePlayerAtLeave_eq hplayer hteam faction
    have hmembers := Battleground.members_erase hplayer hteam
    rw [BgWorld.step, hleft]
    have hwaiting : ∀ team', BgWorld.waiting { w with bg := { w.bg with
        players := w.bg.players.erase guid
        playersCount := fun team' =>
          if team' = team then decrease (w.bg.playersCount team') else w.bg.playersCount team'
        invitedCount := fun team' =>
          if team' = team then decrease (w.bg.invitedCount team')
            else w.bg.invitedCount team' } } team' = w.waiting team' :=
      fun team' => waiting_congr (fun _ => rfl) team'
    refine ⟨h.structured, h.id, fun other player' hfound => ?_, fun team' => ?_, fun team' => ?_⟩
    · change (w.bg.players.erase guid).find? other = some player' at hfound
      rw [find?_erase] at hfound
      split_ifs at hfound
      exact h.teams other player' hfound
    · have hcount := hmembers team'
      have hone := h.players team'
      show (if team' = team then decrease (w.bg.playersCount team') else w.bg.playersCount team') =
        (w.bg.players.erase guid).values.countP _
      split_ifs at hcount ⊢ with heq
      · have hdecrease := decrease_add_one (n := w.bg.playersCount team') (by omega)
        omega
      · omega
    · have hcount := hmembers team'
      have hone := h.invited team'
      rw [hwaiting]
      show (if team' = team then decrease (w.bg.invitedCount team') else w.bg.invitedCount team') =
        _ + (w.bg.players.erase guid).values.countP _
      split_ifs at hcount ⊢ with heq
      · have hdecrease := decrease_add_one (n := w.bg.invitedCount team') (by omega)
        omega
      · omega

theorem removePlayerAtLeave_instanceId (bg : Battleground) (guid : Guid) (faction : Option Team) :
    (bg.removePlayerAtLeave guid faction).instanceId = bg.instanceId := by
  rw [Battleground.removePlayerAtLeave]
  split <;> rfl

theorem find?_removePlayerAtLeave (bg : Battleground) (guid : Guid) (faction : Option Team) :
    (bg.removePlayerAtLeave guid faction).players.find? guid = none := by
  rw [Battleground.removePlayerAtLeave]
  cases hplayer : bg.players.find? guid with
  | none => exact hplayer
  | some player => exact find?_erase_self _ _

theorem addPlayer_eq (bg : Battleground) (guid : Guid) (team : Team) :
    bg.addPlayer guid team =
      { bg with
        players := bg.players.set guid ⟨0, some team⟩
        playersCount := fun team' => bg.playersCount team' + if team' = team then 1 else 0 } := by
  rw [Battleground.addPlayer, Battleground.updatePlayersCountByTeam, getTeamIndexByTeamId_some]
  congr 1
  funext team'
  by_cases heq : team' = team <;> simp [heq]

theorem Counted.accept (h : w.Counted) (guid : Guid) (faction : Option Team) :
    (w.accept guid faction).Counted := by
  cases hteam : w.invitedTeam guid with
  | none => rwa [BgWorld.accept, hteam]
  | some team =>
    have hleft := h.leave guid faction
    have hnew := find?_removePlayerAtLeave w.bg guid faction
    have hmembers := Battleground.members_addPlayer hnew team
    have hid := removePlayerAtLeave_instanceId w.bg guid faction
    have hstays : ∀ team', (w.step (.leave guid faction)).waiting team' = w.waiting team' :=
      waiting_congr fun other => by
        rw [invitedTeam, invitedTeam]
        simp only [BgWorld.step, hid]
    have haccept : w.accept guid faction = ⟨w.queue.removePlayer guid,
        (w.bg.removePlayerAtLeave guid faction).addPlayer guid team⟩ := by
      rw [BgWorld.accept, hteam]
    have hothers : ∀ other, (w.accept guid faction).invitedTeam other =
        if other = guid then none else w.invitedTeam other :=
      invitedTeam_removePlayer h.structured h.id guid (by rw [haccept])
        (by rw [haccept, addPlayer_eq, hid])
    have hanswer := waiting_answer hteam hothers
    rw [haccept] at hanswer ⊢
    rw [addPlayer_eq] at hmembers hanswer ⊢
    refine ⟨h.structured.removePlayer guid, hleft.id, fun other player hfound => ?_,
      fun team' => ?_, fun team' => ?_⟩
    · dsimp only at hfound
      rw [find?_set] at hfound
      split_ifs at hfound
      · cases hfound
        exact ⟨team, rfl⟩
      · exact hleft.teams other player hfound
    · exact (congrArg (· + _) (hleft.players team')).trans (hmembers team').symm
    · have hinvited := hleft.invited team'
      have hone := hanswer team'
      rw [hstays] at hinvited
      rw [hmembers]
      exact hinvited.trans (by rw [← hone]; simp only [BgWorld.step]; omega)

theorem Counted.decline (h : w.Counted) (guid : Guid) : (w.decline guid).Counted := by
  have hqueue : (w.decline guid).queue = w.queue.removePlayer guid := rfl
  have hstructured : (w.decline guid).queue.Structured := h.structured.removePlayer guid
  cases hteam : w.invitedTeam guid with
  | none =>
    have hbg : (w.decline guid).bg = w.bg := by rw [BgWorld.decline, hteam]
    have hstays : ∀ team, (w.decline guid).waiting team = w.waiting team := by
      refine waiting_congr fun other => ?_
      rw [invitedTeam_removePlayer h.structured h.id guid hqueue (by rw [hbg])]
      split_ifs with heq
      · rw [heq, hteam]
      · rfl
    refine ⟨hstructured, ?_, ?_, ?_, fun team => ?_⟩
    · rw [hbg]
      exact h.id
    · rw [hbg]
      exact h.teams
    · rw [hbg]
      exact h.players
    · rw [hbg, hstays]
      exact h.invited team
  | some team =>
    have hbg : (w.decline guid).bg = { w.bg with
        invitedCount := fun team' =>
          if team' = team then decrease (w.bg.invitedCount team')
          else w.bg.invitedCount team' } := by
      rw [BgWorld.decline, hteam]
      dsimp only
      rw [Battleground.decreaseInvitedCount, getTeamIndexByTeamId_some]
    have hanswer := waiting_answer hteam
      (invitedTeam_removePlayer h.structured h.id guid hqueue (by rw [hbg]))
    refine ⟨hstructured, ?_, ?_, ?_, fun team' => ?_⟩
    · rw [hbg]
      exact h.id
    · rw [hbg]
      exact h.teams
    · rw [hbg]
      exact h.players
    · have hone := hanswer team'
      have hinvited := h.invited team'
      rw [hbg]
      show (if team' = team then decrease (w.bg.invitedCount team')
        else w.bg.invitedCount team') = _ + w.bg.members team'
      split_ifs at hone ⊢
      · have hdecrease := decrease_add_one (n := w.bg.invitedCount team') (by omega)
        omega
      · omega

theorem Counted.setOfflineRemoveTime (h : w.Counted)
    (hthere : w.bg.players.contains guid = true) (time : ℕ) :
    Counted { w with bg := w.bg.setOfflineRemoveTime guid time } := by
  obtain ⟨player, hplayer⟩ := Option.isSome_iff_exists.mp hthere
  have hmembers := Battleground.members_setOfflineRemoveTime hplayer time
  have hstays : ∀ team, BgWorld.waiting { w with bg := w.bg.setOfflineRemoveTime guid time } team =
      w.waiting team := waiting_congr fun _ => rfl
  refine ⟨h.structured, h.id, fun other player' hfound => ?_, fun team => ?_, fun team => ?_⟩
  · change (w.bg.players.set guid { (w.bg.players.find? guid).getD ⟨0, none⟩ with
      offlineRemoveTime := time }).find? other = some player' at hfound
    rw [find?_set, hplayer] at hfound
    split_ifs at hfound
    · cases hfound
      exact h.teams guid player hplayer
    · exact h.teams other player' hfound
  · exact (h.players team).trans (hmembers team).symm
  · rw [hmembers, hstays]
    exact h.invited team

/-! ## Every run -/

/-- A battleground that is created, with the queue as it is. -/
def start (queue : BattlegroundQueue) (instanceId maxPlayersPerTeam minPlayersPerTeam : ℕ) :
    BgWorld :=
  ⟨queue, Battleground.create instanceId maxPlayersPerTeam minPlayersPerTeam⟩

/-- What the callers see to: who joins is not in the queue yet, the groups that are invited for a
side are selected for it, and a player logs in to a battleground only if the player has joined. -/
def Allowed (w : BgWorld) : Op → Prop
  | .addGroup now join => w.queue.Allowed (.addGroup now join)
  | .invite now bracketId side inWorld groups =>
    Admissible (fun w group => w.inviteGroup now bracketId side inWorld group)
      (fun w group => w.Invitable bracketId side group) w groups
  | .loggedIn guid => w.bg.players.contains guid = true
  | _ => True

/-- Everyone who is invited is in the world, and everyone who logs out has joined. -/
def Known (w : BgWorld) : Op → Prop
  | .invite now bracketId side inWorld groups =>
    Admissible (fun w group => w.inviteGroup now bracketId side inWorld group)
      (fun w group => w.queue.uninvited group = true → w.Present inWorld group) w groups
  | .loggedOut guid _ => w.bg.players.contains guid = true
  | _ => True

theorem counted_start {queue : BattlegroundQueue} (h : queue.Structured) {instanceId : ℕ}
    (hid : instanceId ≠ 0) (hnew : ∀ group info, queue.groups.find? group = some info →
      info.isInvitedToBGInstanceGUID ≠ instanceId) (maxPlayersPerTeam minPlayersPerTeam : ℕ) :
    (start queue instanceId maxPlayersPerTeam minPlayersPerTeam).Counted := by
  refine ⟨h, hid, fun _ _ hfound => ?_, fun _ => rfl, fun team => ?_⟩
  · cases hfound
  have hnone : (start queue instanceId maxPlayersPerTeam minPlayersPerTeam).waiting team = 0 := by
    refine waiting_eq List.nodup_nil fun guid => iff_of_false List.not_mem_nil fun hteam => ?_
    obtain ⟨player, hplayer, hinvited⟩ := Option.bind_eq_some_iff.mp hteam
    obtain ⟨info, hinfo⟩ := h.queued guid player hplayer
    dsimp only at hinvited
    split_ifs at hinvited with heq
    exact hnew _ info hinfo ((congrArg _ (BattlegroundQueue.ginfo_eq hinfo).symm).trans heq)
  rw [hnone]
  rfl

theorem Counted.step (h : w.Counted) {op : Op} (hallowed : w.Allowed op) (hknown : w.Known op) :
    (w.step op).Counted := by
  cases op with
  | addGroup now join => exact h.addGroup hallowed
  | invite now bracketId side inWorld groups =>
    exact run_invariant Counted (fun w group h hgroup => h.inviteGroup hgroup.1 hgroup.2) h
      (hallowed.and hknown)
  | accept guid faction => exact h.accept guid faction
  | decline guid => exact h.decline guid
  | loggedOut guid gameTime => exact h.setOfflineRemoveTime hknown _
  | loggedIn guid => exact h.setOfflineRemoveTime hallowed 0
  | leave guid faction => exact h.leave guid faction
  | setStatus status =>
    have hstays : ∀ team, (w.step (.setStatus status)).waiting team = w.waiting team :=
      waiting_congr fun _ => rfl
    refine ⟨h.structured, h.id, h.teams, h.players, fun team => ?_⟩
    rw [hstays]
    exact h.invited team

/-! ## What a decrease needs -/

instance (w : BgWorld) (bracketId : ℕ) (side : Team) (group : ℕ) :
    Decidable (w.Invitable bracketId side group) :=
  inferInstanceAs (Decidable ((w.queue.groups.contains group = true ∧
    (w.queue.ginfo group).team = side) ∨ w.queue.uninvited group = true ∧
      (group ∈ w.queue.queuedGroups bracketId (bgQueuePremade .alliance) ∨
        group ∈ w.queue.queuedGroups bracketId (bgQueuePremade .horde))))

instance (w : BgWorld) (inWorld : Guid → Bool) (group : ℕ) :
    Decidable (w.Present inWorld group) :=
  inferInstanceAs (Decidable (∀ guid ∈ (w.queue.ginfo group).players.elems, inWorld guid = true))

instance (w : BgWorld) : ∀ op, Decidable (w.Allowed op) := by
  intro op
  cases op <;> dsimp only [Allowed] <;> infer_instance

instance (w : BgWorld) : ∀ op, Decidable (w.Known op) := by
  intro op
  cases op <;> dsimp only [Known] <;> infer_instance

end BgWorld

end TeraCore
