import TeraCore.Guilds.Leadership

/-!
# Guilds: who may remove, promote and demote whom

Removals, promotions and demotions are for members whose rank is below the player's.  A promoted
member stays below the player, and a demoted one gets a rank that exists.

A removal refuses the guild master's *rank*, and does not look at the guild's leader.  A leader who
does not have that rank can be removed, and is then succeeded by a member of the highest rank, who
gets another rank if nobody is a guild master.

## Main results

* `Guild.respectsRanks_handleUpdateMemberRank`: promotions and demotions
* `Guild.respectsRanks_handleRemoveMember_iff`: removals
* `Guild.respectsRanks_iff`: both
-/

namespace TeraCore

open Commons OrderedMap

namespace Guild

/-- The member under a number after a change; the guild may have disbanded. -/
def memberAfter (g' : Option Guild) (k : ℕ) : Option Member := g'.bind fun g => g.members.find? k

variable (g : Guild) (player : Guid) (name : String)

/-- **A change of the guild respects the ranks.**  Every member stays and keeps its rank, but for
the named one, if the player outranks it; a rank it gets is below the player's, and exists. -/
def RespectsRanks (g' : Option Guild) : Prop :=
  ∀ k m, g.members.find? k = some m →
    (∃ m', memberAfter g' k = some m' ∧ m'.rankId = m.rankId) ∨
      g.getMemberByName name = some m ∧ ∃ me, g.getMember player = some me ∧
        me.rankId < m.rankId ∧ ∀ m', memberAfter g' k = some m' →
          me.rankId < m'.rankId ∧ m'.rankId ≤ g.getLowestRankId

/-- The player has the right to remove the named member, and outranks it. -/
def Removes (m me : Member) : Prop :=
  g.hasRankRight player grRightRemove = true ∧ g.getMemberByName name = some m ∧
    g.getMember player = some me ∧ me.rankId < m.rankId

/-- **A leader is removed only where somebody is a guild master.** -/
def SparesLeader : Prop :=
  ∀ m me, g.Removes player name m me → m.guid = g.leaderGuid →
    ∃ k l, g.members.find? k = some l ∧ l.rankId = grGuildmaster

section

variable {g} {player} {name} {m me : Member}

theorem ne_grGuildmaster_of_lt {r r' : BitVec 8} (h : r < r') : r' ≠ grGuildmaster := by
  rintro rfl
  exact absurd h BitVec.not_lt_zero

theorem respectsRanks_self (g : Guild) (player : Guid) (name : String) :
    g.RespectsRanks player name (some g) := fun _ m hm => .inl ⟨m, hm, rfl⟩

/-! ## Promotions and demotions -/

theorem handleUpdateMemberRank_outranks (g : Guild) (player : Guid) (name : String)
    (demote : Bool) :
    (g.handleUpdateMemberRank player name demote).2 = g ∨
      ∃ m me rankId, g.getMemberByName name = some m ∧ g.getMember player = some me ∧
        (g.handleUpdateMemberRank player name demote).2 = g.setMember (m.changeRank rankId) ∧
        (me.rankId < m.rankId ∧ m.rankId < g.getLowestRankId ∧ rankId = m.rankId + 1 ∨
          me.rankId + 1 < m.rankId ∧ rankId = m.rankId - 1) := by
  unfold handleUpdateMemberRank
  generalize (if demote = true then grRightDemote else grRightPromote) = right
  by_cases hright : (!g.hasRankRight player right) = true
  · rw [if_pos hright]
    exact .inl rfl
  rw [if_neg hright]
  cases hname : g.getMemberByName name with
  | none => exact .inl rfl
  | some m =>
    dsimp only
    by_cases hself : m.isSamePlayer player = true
    · rw [if_pos hself]
      exact .inl rfl
    rw [if_neg hself]
    cases hme : g.getMember player with
    | none => exact .inl rfl
    | some me =>
      cases demote with
      | true =>
        simp only [if_true]
        split_ifs with hrank hlow
        · exact .inl rfl
        · exact .inl rfl
        · have hrank' : me.rankId < m.rankId := by
            simpa [Member.isRankNotLower] using hrank
          exact .inr ⟨m, me, _, rfl, rfl, rfl, .inl ⟨hrank', BitVec.not_le.mp hlow, rfl⟩⟩
      | false =>
        simp only [Bool.false_eq_true, if_false]
        split_ifs with hrank
        · exact .inl rfl
        · have hrank' : me.rankId + 1 < m.rankId := by
            simpa [Member.isRankNotLower] using hrank
          exact .inr ⟨m, me, _, rfl, rfl, rfl, .inr ⟨hrank', rfl⟩⟩

theorem respectsRanks_handleUpdateMemberRank (hg : g.Keyed) (hranks : g.RanksInStep)
    (player : Guid) (name : String) (demote : Bool) :
    g.RespectsRanks player name (some (g.handleUpdateMemberRank player name demote).2) := by
  obtain heq | ⟨m, me, rankId, hname, hme, heq, hmove⟩ :=
    handleUpdateMemberRank_outranks g player name demote
  · rw [heq]
    exact respectsRanks_self g player name
  rw [heq]
  obtain ⟨km, hkm⟩ := mem_of_getMemberByName hname
  have hheld := hranks.held km m hkm
  have hheldMe := hranks.held _ me hme
  have hlen := hranks.length_lt
  have hlowest := getLowestRankId_toNat hlen.le
  intro k w hw
  have hset : (g.setMember (m.changeRank rankId)).members.find? k =
      if k = km then some (m.changeRank rankId) else g.members.find? k :=
    hg.find?_setMember hkm (show (m.changeRank rankId).guid = m.guid from rfl) k
  by_cases hk : k = km
  · right
    subst hk
    cases hkm.symm.trans hw
    rw [if_pos rfl] at hset
    refine ⟨hname, me, hme, ?_, fun m' hm' => ?_⟩
    · rcases hmove with ⟨hlt, -, -⟩ | ⟨hlt, -⟩
      · exact hlt
      · bv_omega
    · cases hset.symm.trans hm'
      rcases hmove with ⟨hlt, hlow, rfl⟩ | ⟨hlt, rfl⟩
      · constructor
        · change me.rankId < m.rankId + 1
          bv_omega
        · change m.rankId + 1 ≤ g.getLowestRankId
          bv_omega
      · constructor
        · change me.rankId < m.rankId - 1
          bv_omega
        · rw [BitVec.le_def, hlowest]
          change (m.rankId - 1).toNat ≤ _
          bv_omega
  · left
    rw [if_neg hk] at hset
    exact ⟨w, hset.trans hw, rfl⟩

/-! ## Removals -/

theorem handleRemoveMember_of_removes (h : g.Removes player name m me) :
    (g.handleRemoveMember player name).2 = g.deleteMember m.guid := by
  obtain ⟨hright, hname, hme, hrank⟩ := h
  have hmaster : m.isRank grGuildmaster = false := by
    simpa [Member.isRank] using ne_grGuildmaster_of_lt hrank
  have hlower : m.isRankNotLower me.rankId = false := by
    simpa [Member.isRankNotLower] using hrank
  simp [handleRemoveMember, hright, hname, hmaster, hme, hlower]

theorem handleRemoveMember_of_not_removes (h : ∀ m me, ¬ g.Removes player name m me) :
    (g.handleRemoveMember player name).2 = some g := by
  unfold handleRemoveMember
  by_cases hright : g.hasRankRight player grRightRemove = true
  swap
  · simp [hright]
  cases hname : g.getMemberByName name with
  | none => simp [hright]
  | some m =>
    by_cases hmaster : m.isRank grGuildmaster = true
    · simp [hright, hmaster]
    cases hme : g.getMember player with
    | none => simp [hright, hmaster]
    | some me =>
      have hlower : m.isRankNotLower me.rankId = true := by
        have hnot : ¬ me.rankId < m.rankId := fun hlt => h m me ⟨hright, hname, hme, hlt⟩
        simpa [Member.isRankNotLower] using hnot
      simp [hright, hmaster, hlower]

theorem memberAfter_deleteMember (hne : m.guid ≠ g.leaderGuid) (k : ℕ) :
    memberAfter (g.deleteMember m.guid) k =
      if k = guidLopart m.guid then none else g.members.find? k := by
  have hleader : ¬ g.leaderGuid = m.guid := Ne.symm hne
  simp only [Guild.deleteMember, if_neg hleader]
  exact find?_erase _ _ _

theorem memberAfter_deleteMember_leader (hg : g.Keyed) {kl : ℕ} {l : Member}
    (hl : g.members.find? kl = some l) (hleader : m.guid = g.leaderGuid)
    (hnew : g.findNewLeader (guidLopart m.guid) = some l) (k : ℕ) :
    memberAfter (g.deleteMember m.guid) k =
      if k = guidLopart m.guid then none
      else if k = kl then some (l.changeRank grGuildmaster) else g.members.find? k := by
  simp only [Guild.deleteMember, if_pos hleader.symm, hnew, memberAfter, Option.bind_some]
  rw [find?_erase, hg.find?_setLeaderGUID hl]

theorem Removes.keys (h : g.Removes player name m me) (hg : g.Keyed) :
    g.members.find? (guidLopart m.guid) = some m ∧ guidLopart player ≠ guidLopart m.guid := by
  obtain ⟨-, hname, hme, hrank⟩ := h
  obtain ⟨km, hkm⟩ := mem_of_getMemberByName hname
  obtain ⟨hguid, hlt⟩ := hg km m hkm
  have hlow : guidLopart m.guid = km := by rw [hguid, guidLopart_of_lt hlt]
  rw [hlow]
  refine ⟨hkm, ?_⟩
  intro heq
  have hfind : g.members.find? km = some me := heq ▸ hme
  cases hkm.symm.trans hfind
  exact BitVec.lt_irrefl _ hrank

theorem Removes.respects (h : g.Removes player name m me) {g' : Option Guild} {k : ℕ}
    (hgone : memberAfter g' k = none) :
    g.getMemberByName name = some m ∧ ∃ me, g.getMember player = some me ∧
      me.rankId < m.rankId ∧ ∀ m', memberAfter g' k = some m' →
        me.rankId < m'.rankId ∧ m'.rankId ≤ g.getLowestRankId := by
  obtain ⟨-, hname, hme, hrank⟩ := h
  refine ⟨hname, me, hme, hrank, fun m' hm' => ?_⟩
  rw [hgone] at hm'
  cases hm'

theorem Removes.respectsRanks (h : g.Removes player name m me) (hg : g.Keyed)
    (hne : m.guid ≠ g.leaderGuid) : g.RespectsRanks player name (g.deleteMember m.guid) := by
  obtain ⟨hkm, -⟩ := h.keys hg
  intro k w hw
  have hafter := memberAfter_deleteMember hne k
  by_cases hk : k = guidLopart m.guid
  · subst hk
    cases hkm.symm.trans hw
    rw [if_pos rfl] at hafter
    exact .inr (h.respects hafter)
  · rw [if_neg hk] at hafter
    exact .inl ⟨w, hafter.trans hw, rfl⟩

theorem Removes.respectsRanks_leader_iff (h : g.Removes player name m me) (hg : g.Keyed)
    (hleader : m.guid = g.leaderGuid) :
    g.RespectsRanks player name (g.deleteMember m.guid) ↔
      ∃ k l, g.members.find? k = some l ∧ l.rankId = grGuildmaster := by
  obtain ⟨hkm, hneMe⟩ := h.keys hg
  have hchecks := h
  obtain ⟨-, hname, hme, hrank⟩ := hchecks
  cases hnew : g.findNewLeader (guidLopart m.guid) with
  | none => exact absurd (findNewLeader_eq_none hnew hme) hneMe
  | some l =>
    obtain ⟨kl, hkl, hl, hmin⟩ := findNewLeader_spec hnew
    have hafter := memberAfter_deleteMember_leader hg hl hleader hnew
    constructor
    · intro hrespects
      refine ⟨kl, l, hl, ?_⟩
      rcases hrespects kl l hl with ⟨l', hl', hsame⟩ | ⟨hnamed, -⟩
      · rw [hafter, if_neg hkl, if_pos rfl] at hl'
        cases hl'
        exact hsame.symm
      · cases hname.symm.trans hnamed
        exact absurd ((hg kl m hl).1.symm.trans (hg _ m hkm).1) hkl
    · rintro ⟨k₀, l₀, hl₀, hmaster⟩ k w hw
      have hk₀ : k₀ ≠ guidLopart m.guid := by
        rintro rfl
        cases hkm.symm.trans hl₀
        exact ne_grGuildmaster_of_lt hrank hmaster
      have hsucceeds : l.rankId = grGuildmaster := by
        have hle := hmin k₀ l₀ hk₀ hl₀
        rw [hmaster] at hle
        exact BitVec.le_zero_iff.mp hle
      have hkept := hafter k
      by_cases hk : k = guidLopart m.guid
      · subst hk
        cases hkm.symm.trans hw
        rw [if_pos rfl] at hkept
        exact .inr (h.respects hkept)
      · left
        rw [if_neg hk] at hkept
        by_cases hkl' : k = kl
        · subst hkl'
          cases hl.symm.trans hw
          rw [if_pos rfl] at hkept
          exact ⟨_, hkept, hsucceeds.symm⟩
        · rw [if_neg hkl'] at hkept
          exact ⟨w, hkept.trans hw, rfl⟩

theorem respectsRanks_handleRemoveMember_iff (hg : g.Keyed) (player : Guid) (name : String) :
    g.RespectsRanks player name (g.handleRemoveMember player name).2 ↔
      g.SparesLeader player name := by
  by_cases hremoves : ∃ m me, g.Removes player name m me
  · obtain ⟨m, me, h⟩ := hremoves
    have hunique : ∀ m' me', g.Removes player name m' me' → m' = m := fun m' me' h' =>
      Option.some.inj (h'.2.1.symm.trans h.2.1)
    rw [handleRemoveMember_of_removes h]
    by_cases hleader : m.guid = g.leaderGuid
    · rw [h.respectsRanks_leader_iff hg hleader]
      exact ⟨fun hmaster _ _ _ _ => hmaster, fun hspares => hspares m me h hleader⟩
    · refine iff_of_true (h.respectsRanks hg hleader) fun m' me' h' hleader' => ?_
      rw [hunique m' me' h'] at hleader'
      exact absurd hleader' hleader
  · rw [not_exists] at hremoves
    have hnot : ∀ m me, ¬ g.Removes player name m me := fun m me h => hremoves m ⟨me, h⟩
    rw [handleRemoveMember_of_not_removes hnot]
    exact ⟨fun _ m me h => absurd h (hnot m me), fun _ => respectsRanks_self g player name⟩

end

/-! ## Both commands -/

/-- **Guild hierarchy.**  In a guild with consistent ranks, promotions, demotions and removals
respect the ranks exactly if a leader is removed only where somebody is a guild master. -/
theorem respectsRanks_iff (g : Guild) (hg : g.Keyed) (hranks : g.RanksInStep) (player : Guid)
    (name : String) :
    ((∀ demote, g.RespectsRanks player name
        (some (g.handleUpdateMemberRank player name demote).2)) ∧
      g.RespectsRanks player name (g.handleRemoveMember player name).2) ↔
      g.SparesLeader player name := by
  rw [respectsRanks_handleRemoveMember_iff hg]
  exact and_iff_right (respectsRanks_handleUpdateMemberRank hg hranks player name)

/-- Two guild masters, Ana (who leads) and Ben, and the officer Cem, as a server loads them that
allows several guild masters. -/
def twoMasters : Guild :=
  let member := GuildWorld.newMember
  let g : Guild :=
    { id := 1
      leaderGuid := 1
      motd := ""
      ranks := []
      members := ((OrderedMap.empty.set 1 (member 1 "Ana" 0)).set 2 (member 2 "Ben" 0)).set 3
        (member 3 "Cem" 1)
      purchasedTabs := 0
      bankMoney := 0 }
  ((g.createDefaultGuildRanks fun _ => "").validate (fun _ => "") true).getD g

/-- Ana hands the leadership to herself, which makes her an officer; Ben demotes her, and his
character is deleted. -/
def veteranLeads : Guild :=
  let g := (twoMasters.handleSetLeader 1 "Ana").2
  let g := (g.handleUpdateMemberRank 2 "Ana" true).2
  (g.deleteMember 2).getD g

theorem keyed_of_entries {g : Guild}
    (h : ∀ e ∈ g.members.entries, e.2.guid = e.1 ∧ e.1 < 2 ^ 32) : g.Keyed := fun k m hm =>
  h (k, m) (mem_entries.mpr hm)

theorem ranksInStep_of_entries {g : Guild} (h : RankList g.ranks)
    (hheld : ∀ e ∈ g.members.entries, e.2.rankId.toNat < g.ranks.length) : g.RanksInStep :=
  ⟨h, fun k m hm => hheld (k, m) (mem_entries.mpr hm)⟩

/-- Ben promotes, demotes or removes Cem. -/
theorem respectsRanks_twoMasters :
    (∀ demote, twoMasters.RespectsRanks 2 "Cem"
        (some (twoMasters.handleUpdateMemberRank 2 "Cem" demote).2)) ∧
      twoMasters.RespectsRanks 2 "Cem" (twoMasters.handleRemoveMember 2 "Cem").2 := by
  have hranks : RankList twoMasters.ranks :=
    ⟨by unfold RankIds; decide +kernel, by decide +kernel, by decide +kernel⟩
  refine (respectsRanks_iff twoMasters (keyed_of_entries (by decide +kernel))
    (ranksInStep_of_entries hranks (by decide +kernel)) 2 "Cem").mpr fun _ _ _ _ => ?_
  exact ⟨1, GuildWorld.newMember 1 "Ana" 0, rfl, rfl⟩

/-- Cem removes Ana, and becomes the guild master. -/
theorem not_respectsRanks_veteranLeads :
    ¬ ∀ (g : Guild) (player : Guid) (name : String), g.Keyed → g.RanksInStep →
      (∀ demote, g.RespectsRanks player name
          (some (g.handleUpdateMemberRank player name demote).2)) ∧
        g.RespectsRanks player name (g.handleRemoveMember player name).2 := by
  intro h
  have hranks : RankList veteranLeads.ranks :=
    ⟨by unfold RankIds; decide +kernel, by decide +kernel, by decide +kernel⟩
  have hremove := (h veteranLeads 3 "Ana" (keyed_of_entries (by decide +kernel))
    (ranksInStep_of_entries hranks (by decide +kernel))).2
  rcases hremove 3 (GuildWorld.newMember 3 "Cem" 1) rfl with ⟨m', hm', hsame⟩ | ⟨hnamed, -⟩
  · have hmaster : memberAfter (veteranLeads.handleRemoveMember 3 "Ana").2 3 =
        some (GuildWorld.newMember 3 "Cem" 0) := rfl
    cases hmaster.symm.trans hm'
    exact absurd hsame (by decide)
  · have hnames := congrArg (Option.map Member.name) hnamed
    revert hnames
    decide +kernel

end Guild

end TeraCore
