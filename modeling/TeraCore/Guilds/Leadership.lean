import TeraCore.Guilds.RankStructure

/-!
# Guilds: the guild master

Leadership is stored twice, as the guild's leader guid and as the rank of one member.  The two
agree when the leader guid is a member's and that member has the guild master's rank.

They are changed together, by two steps: the new leader is promoted, then the old one demoted.
The handover breaks when both are the same member.

## Main results

* `Guild.Led.deleteMember`, `Guild.Led.handleSetLeader`: the succession and the handover
* `GuildWorld.led_step`: every operation keeps the guild led, if no leader hands over to himself
* `GuildWorld.led_after`: so a guild is led until it is disbanded
-/

namespace TeraCore

open Commons OrderedMap

namespace Guild

/-! ## The leader and the members -/

/-- The members are filed under the numbers of their own guids. -/
def Keyed (g : Guild) : Prop := ∀ k m, g.members.find? k = some m → m.guid = k ∧ k < 2 ^ 32

/-- **The guild is led**: the leader guid is a member's, who has the guild master's rank. -/
def Led (g : Guild) : Prop :=
  ∃ m, g.getMember g.leaderGuid = some m ∧ m.guid = g.leaderGuid ∧ m.rankId = grGuildmaster

variable {k : ℕ} {g g' : Guild} {m m' : Member}

theorem guidLopart_of_lt (h : k < 2 ^ 32) : guidLopart k = k := Nat.mod_eq_of_lt h

theorem Keyed.find?_setMember (hg : g.Keyed)
    (hm : g.members.find? k = some m) (hguid : m'.guid = m.guid) (j : ℕ) :
    (g.setMember m').members.find? j = if j = k then some m' else g.members.find? j := by
  obtain ⟨hk, hlt⟩ := hg k m hm
  rw [Guild.setMember, hguid, hk, guidLopart_of_lt hlt, find?_set]

theorem Keyed.setMember (hg : g.Keyed)
    (hm : g.members.find? k = some m) (hguid : m'.guid = m.guid) : (g.setMember m').Keyed := by
  intro j w hw
  rw [hg.find?_setMember hm hguid] at hw
  split_ifs at hw with hj
  · cases hw
    rw [hguid, hj]
    exact hg k m hm
  · exact hg j w hw

theorem Keyed.erase (hg : g.Keyed) (lowguid : ℕ) :
    Guild.Keyed { g with members := g.members.erase lowguid } := by
  intro k m hm
  rw [find?_erase] at hm
  split_ifs at hm with hk
  exact hg k m hm

theorem Keyed.setLeaderGUID (hg : g.Keyed)
    (hm : g.members.find? k = some m) : (g.setLeaderGUID m).Keyed :=
  Keyed.setMember (g := { g with leaderGuid := m.guid }) hg hm rfl

theorem Keyed.led_iff (hg : g.Keyed) :
    g.Led ↔ ∃ m, g.members.find? g.leaderGuid = some m ∧ m.rankId = grGuildmaster := by
  constructor
  · rintro ⟨m, hm, hguid, hrank⟩
    obtain ⟨hkey, hlt⟩ := hg _ m hm
    rw [hguid] at hkey
    rw [getMember, ← hkey] at hm
    exact ⟨m, hm, hrank⟩
  · rintro ⟨m, hm, hrank⟩
    obtain ⟨hkey, hlt⟩ := hg _ m hm
    refine ⟨m, ?_, hkey, hrank⟩
    rwa [getMember, guidLopart_of_lt hlt]

theorem Keyed.find?_setLeaderGUID (hg : g.Keyed) (hm : g.members.find? k = some m) (j : ℕ) :
    (g.setLeaderGUID m).members.find? j =
      if j = k then some (m.changeRank grGuildmaster) else g.members.find? j :=
  have h : (m.changeRank grGuildmaster).guid = m.guid := rfl
  Keyed.find?_setMember (g := { g with leaderGuid := m.guid }) hg hm h j

theorem Keyed.led_setLeaderGUID (hg : g.Keyed)
    (hm : g.members.find? k = some m) : (g.setLeaderGUID m).Led := by
  refine (hg.setLeaderGUID hm).led_iff.mpr ⟨m.changeRank grGuildmaster, ?_, rfl⟩
  rw [hg.find?_setLeaderGUID hm]
  exact if_pos (hg k m hm).1

theorem Led.setMember (h : g.Led) (hg : g.Keyed)
    (hm : g.members.find? k = some m) (hguid : m'.guid = m.guid) (hne : k ≠ g.leaderGuid) :
    (g.setMember m').Led := by
  obtain ⟨l, hl, hmaster⟩ := hg.led_iff.mp h
  refine (hg.setMember hm hguid).led_iff.mpr ⟨l, ?_, hmaster⟩
  rw [hg.find?_setMember hm hguid]
  exact (if_neg (Ne.symm hne)).trans hl

theorem Led.erase (h : g.Led) (hg : g.Keyed) {lowguid : ℕ} (hne : lowguid ≠ g.leaderGuid) :
    Guild.Led { g with members := g.members.erase lowguid } := by
  obtain ⟨l, hl, hmaster⟩ := hg.led_iff.mp h
  refine (hg.erase lowguid).led_iff.mpr ⟨l, ?_, hmaster⟩
  exact (find?_erase_of_ne _ hne.symm).trans hl

/-! ## The commands -/

/-- **The succession**: the guild is led after a member, or its leader, has left. -/
theorem Led.deleteMember (h : g.Led) (hg : g.Keyed) {guid : Guid}
    (hguid : guid < 2 ^ 32) (hdel : g.deleteMember guid = some g') : g'.Led ∧ g'.Keyed := by
  obtain ⟨hne, rfl⟩ | ⟨-, l, hl, rfl⟩ := deleteMember_cases hdel
  · refine ⟨h.erase hg ?_, hg.erase _⟩
    rw [guidLopart_of_lt hguid]
    exact hne.symm
  · obtain ⟨k, hk, hmem, -⟩ := findNewLeader_spec hl
    have hkeyed := hg.setLeaderGUID hmem
    refine ⟨(hg.led_setLeaderGUID hmem).erase hkeyed ?_, hkeyed.erase _⟩
    change _ ≠ l.guid
    rw [(hg k l hmem).1]
    exact hk.symm

theorem Led.ne_leaderGuid (h : g.Led) (hg : g.Keyed)
    (hm : g.members.find? k = some m) (hne : m.rankId ≠ grGuildmaster) : k ≠ g.leaderGuid := by
  rintro rfl
  obtain ⟨l, hl, hmaster⟩ := hg.led_iff.mp h
  cases hm.symm.trans hl
  exact hne hmaster

theorem Led.handleUpdateMemberRank (h : g.Led) (hg : g.Keyed) (player : Guid)
    (name : String) (demote : Bool) :
    (g.handleUpdateMemberRank player name demote).2.Led ∧
      (g.handleUpdateMemberRank player name demote).2.Keyed := by
  obtain heq | ⟨m, hname, hne, ⟨-, heq⟩ | heq⟩ :=
    handleUpdateMemberRank_cases g player name demote
  · rw [heq]
    exact ⟨h, hg⟩
  all_goals
    obtain ⟨k, hk⟩ := mem_of_getMemberByName hname
    rw [heq]
    exact ⟨h.setMember hg hk rfl (h.ne_leaderGuid hg hk hne), hg.setMember hk rfl⟩

/-- Does a handover name the player's own member? -/
def handsToSelf (g : Guild) (player : Guid) (name : String) : Bool :=
  g.isLeader player && (g.getMember player).isSome &&
    (g.getMemberByName name).any (·.isSamePlayer player)

theorem Led.handleSetLeader (h : g.Led) (hg : g.Keyed) {player : Guid}
    (hplayer : player < 2 ^ 32) {name : String} (hself : g.handsToSelf player name = false) :
    (g.handleSetLeader player name).2.Led ∧ (g.handleSetLeader player name).2.Keyed := by
  unfold Guild.handleSetLeader
  cases hleader : g.isLeader player with
  | false => exact ⟨h, hg⟩
  | true =>
    cases hold : g.getMember player with
    | none => exact ⟨h, hg⟩
    | some old =>
      cases hnew : g.getMemberByName name with
      | none => exact ⟨h, hg⟩
      | some new =>
        obtain ⟨k, hk⟩ := mem_of_getMemberByName hnew
        have hkeyed := hg.setLeaderGUID hk
        have hne : new.guid ≠ player := by
          simpa [handsToSelf, hleader, hold, hnew, Member.isSamePlayer] using hself
        rw [getMember, guidLopart_of_lt hplayer] at hold
        have hk' : (g.setLeaderGUID new).members.find? player = some old := by
          rw [hg.find?_setLeaderGUID hk, if_neg, hold]
          rintro rfl
          exact hne (hg _ _ hk).1
        exact ⟨(hg.led_setLeaderGUID hk).setMember hkeyed hk' rfl hne.symm,
          hkeyed.setMember hk' rfl⟩

/-! ## What the commands leave as it is -/

/-- A command keeps the guild's number and adds no member. -/
structure NoNewMember (g g' : Guild) : Prop where
  id : g'.id = g.id
  members : ∀ k m, g'.members.find? k = some m → ∃ m', g.members.find? k = some m'

theorem NoNewMember.refl (g : Guild) : NoNewMember g g := ⟨rfl, fun _ m hm => ⟨m, hm⟩⟩

theorem NoNewMember.trans {g'' : Guild} (h : NoNewMember g g') (h' : NoNewMember g' g'') :
    NoNewMember g g'' where
  id := h'.id.trans h.id
  members k m hm := by
    obtain ⟨m', hm'⟩ := h'.members k m hm
    exact h.members k m' hm'

theorem noNewMember_setMember
    (hm : g.members.find? (guidLopart m'.guid) = some m) : NoNewMember g (g.setMember m') where
  id := rfl
  members j w hw := by
    rw [setMember, find?_set] at hw
    split_ifs at hw with hj
    · rw [hj]
      exact ⟨m, hm⟩
    · exact ⟨w, hw⟩

theorem Keyed.find?_guidLopart (hg : g.Keyed)
    (hm : g.members.find? k = some m) : g.members.find? (guidLopart m.guid) = some m := by
  obtain ⟨hk, hlt⟩ := hg k m hm
  rwa [hk, guidLopart_of_lt hlt]

theorem Keyed.noNewMember_setLeaderGUID (hg : g.Keyed)
    (hm : g.members.find? k = some m) : NoNewMember g (g.setLeaderGUID m) where
  id := rfl
  members :=
    have h : g.members.find? (guidLopart (m.changeRank grGuildmaster).guid) = some m :=
      hg.find?_guidLopart hm
    (noNewMember_setMember (g := { g with leaderGuid := m.guid }) h).members

theorem noNewMember_erase (g : Guild) (lowguid : ℕ) :
    NoNewMember g { g with members := g.members.erase lowguid } where
  id := rfl
  members k m hm := by
    rw [find?_erase] at hm
    split_ifs at hm with hk
    exact ⟨m, hm⟩

theorem Keyed.noNewMember_deleteMember (hg : g.Keyed) {guid : Guid}
    (hdel : g.deleteMember guid = some g') :
    NoNewMember g g' ∧ ∀ k m, g'.members.find? k = some m → k ≠ guidLopart guid := by
  have hgone : ∀ (members : OrderedMap ℕ Member) (k : ℕ) (m : Member),
      (members.erase (guidLopart guid)).find? k = some m → k ≠ guidLopart guid := by
    rintro members k m hm rfl
    rw [find?_erase_self] at hm
    cases hm
  obtain ⟨-, rfl⟩ | ⟨-, l, hl, rfl⟩ := deleteMember_cases hdel
  · exact ⟨noNewMember_erase g _, hgone _⟩
  · obtain ⟨k, -, hmem, -⟩ := findNewLeader_spec hl
    exact ⟨(hg.noNewMember_setLeaderGUID hmem).trans (noNewMember_erase _ _), hgone _⟩

theorem Keyed.noNewMember_handleUpdateMemberRank (hg : g.Keyed) (player : Guid)
    (name : String) (demote : Bool) :
    NoNewMember g (g.handleUpdateMemberRank player name demote).2 := by
  obtain heq | ⟨m, hname, -, ⟨-, heq⟩ | heq⟩ :=
    handleUpdateMemberRank_cases g player name demote
  · rw [heq]
    exact NoNewMember.refl g
  all_goals
    obtain ⟨k, hk⟩ := mem_of_getMemberByName hname
    rw [heq]
    exact noNewMember_setMember (m := m) (hg.find?_guidLopart hk)

theorem Keyed.noNewMember_handleSetLeader (hg : g.Keyed) (player : Guid)
    (name : String) : NoNewMember g (g.handleSetLeader player name).2 := by
  unfold Guild.handleSetLeader
  cases g.isLeader player with
  | false => exact NoNewMember.refl g
  | true =>
    cases hold : g.getMember player with
    | none => exact NoNewMember.refl g
    | some old =>
      cases hnew : g.getMemberByName name with
      | none => exact NoNewMember.refl g
      | some new =>
        obtain ⟨k, hk⟩ := mem_of_getMemberByName hnew
        refine (hg.noNewMember_setLeaderGUID hk).trans ?_
        have hmem : ∃ m, (g.setLeaderGUID new).members.find? (guidLopart old.guid) = some m := by
          rw [hg.find?_setLeaderGUID hk, hg.find?_guidLopart hold]
          split_ifs
          · exact ⟨_, rfl⟩
          · exact ⟨_, rfl⟩
        obtain ⟨m, hm⟩ := hmem
        exact noNewMember_setMember hm

theorem handleAddNewRank_eq (g : Guild) (player : Guid) (name : String) :
    ∃ ranks, g.handleAddNewRank player name = { g with ranks := ranks } := by
  unfold handleAddNewRank createRank
  dsimp only
  split_ifs
  · exact ⟨g.ranks, rfl⟩
  · exact ⟨_, rfl⟩
  · exact ⟨g.ranks, rfl⟩

theorem exists_handleRemoveLowestRank_eq (g : Guild) (player : Guid) :
    ∃ ranks, g.handleRemoveLowestRank player = { g with ranks := ranks } := by
  unfold handleRemoveLowestRank handleRemoveRank
  split_ifs
  · exact ⟨g.ranks, rfl⟩
  · exact ⟨_, rfl⟩

end Guild

namespace GuildWorld

/-! ## Runs -/

/-- An operation is not a leader's handover to himself. -/
def NotToSelf (w : GuildWorld) : GuildOp → Prop
  | .setLeader player name =>
    ∀ g, w.guild = some g → g.handsToSelf (characterGuid player) name = false
  | _ => True

/-- **The guild master invariant**: the guild is led while it exists, and its members are
characters of this guild, filed under their guids. -/
structure Led (w : GuildWorld) : Prop where
  led : ∀ g, w.guild = some g → g.Led
  keyed : ∀ g, w.guild = some g → g.Keyed
  id : ∀ g, w.guild = some g → g.id ≠ 0
  guildId : ∀ g, w.guild = some g → ∀ k m, g.members.find? k = some m → w.guildIdOf k = g.id

variable {w : GuildWorld}

theorem led_of_guild_eq_none (h : w.guild = none) : w.Led where
  led g hg := by rw [h] at hg; cases hg
  keyed g hg := by rw [h] at hg; cases hg
  id g hg := by rw [h] at hg; cases hg
  guildId g hg := by rw [h] at hg; cases hg

theorem Led.onGuild (h : w.Led) {f : Guild → Guild}
    (hled : ∀ g, w.guild = some g → (f g).Led ∧ (f g).Keyed)
    (hnew : ∀ g, w.guild = some g → Guild.NoNewMember g (f g)) : (w.onGuild f).Led where
  led g' hg' := by
    obtain ⟨g, hg, rfl⟩ := Option.map_eq_some_iff.mp hg'
    exact (hled g hg).1
  keyed g' hg' := by
    obtain ⟨g, hg, rfl⟩ := Option.map_eq_some_iff.mp hg'
    exact (hled g hg).2
  id g' hg' := by
    obtain ⟨g, hg, rfl⟩ := Option.map_eq_some_iff.mp hg'
    rw [(hnew g hg).id]
    exact h.id g hg
  guildId g' hg' k m hm := by
    obtain ⟨g, hg, rfl⟩ := Option.map_eq_some_iff.mp hg'
    obtain ⟨m', hm'⟩ := (hnew g hg).members k m hm
    rw [(hnew g hg).id]
    exact h.guildId g hg k m' hm'

theorem Led.after (h : w.Led) {g : Guild} (hg : w.guild = some g)
    {g' : Option Guild} (hled : ∀ g₁, g' = some g₁ → g₁.Led ∧ g₁.Keyed)
    (hnew : ∀ g₁, g' = some g₁ → Guild.NoNewMember g g₁) : (w.after g g').Led where
  led g₁ hg₁ := (hled g₁ hg₁).1
  keyed g₁ hg₁ := (hled g₁ hg₁).2
  id g₁ hg₁ := by
    rw [(hnew g₁ hg₁).id]
    exact h.id g hg
  guildId g₁ hg₁ k m hm := by
    obtain ⟨m', hm'⟩ := (hnew g₁ hg₁).members k m hm
    rw [(hnew g₁ hg₁).id, ← h.guildId g hg k m' hm']
    obtain rfl : g' = some g₁ := hg₁
    have hstay : g₁.members.contains k = true := contains_iff.mpr ⟨m, hm⟩
    simp [GuildWorld.after, dismiss, hstay]

theorem Led.deleteMember (h : w.Led) {guid : Guid} (hguid : guid < 2 ^ 32) :
    (w.deleteMember guid).Led := by
  unfold GuildWorld.deleteMember
  cases hg : w.guild with
  | none => exact h
  | some g =>
    dsimp only
    cases hdel : g.deleteMember guid with
    | none => exact led_of_guild_eq_none rfl
    | some g' =>
      obtain ⟨hled, hkeyed⟩ := (h.led g hg).deleteMember (h.keyed g hg) hguid hdel
      obtain ⟨hnew, hgone⟩ := (h.keyed g hg).noNewMember_deleteMember hdel
      refine ⟨?_, ?_, ?_, ?_⟩ <;> intro g₁ hg₁ <;> obtain rfl := Option.some.inj hg₁
      · exact hled
      · exact hkeyed
      · rw [hnew.id]
        exact h.id g hg
      · intro k m hm
        obtain ⟨m', hm'⟩ := hnew.members k m hm
        rw [hnew.id, ← h.guildId g hg k m' hm']
        exact Function.update_of_ne (hgone k m hm) _ _

/-- **A character who joins** was in no guild, so it is not the leader. -/
theorem Led.addMember (h : w.Led) {guid : Guid} (hguid : guid < 2 ^ 32)
    (c : Candidate) (rankId : BitVec 8) : (w.addMember guid c rankId).Led := by
  unfold GuildWorld.addMember
  cases hg : w.guild with
  | none => exact h
  | some g =>
    cases c.admitted with
    | none =>
      dsimp only
      split_ifs <;> exact h
    | some name =>
      dsimp only
      generalize (if rankId = guildRankNone then g.getLowestRankId else rankId) = rankId
      rw [Guild.guidLopart_of_lt hguid]
      split_ifs with hid
      · exact h
      · have hnot : ∀ m, g.members.find? guid ≠ some m := by
          intro m hm
          have := h.guildId g hg guid m hm
          exact h.id g hg (this.symm.trans (not_not.mp hid))
        have hkeyed : Guild.Keyed
            { g with members := g.members.set guid (newMember guid name rankId) } := by
          intro k m hm
          rw [find?_set] at hm
          split_ifs at hm with hk
          · cases hm
            exact ⟨hk.symm, hk ▸ hguid⟩
          · exact h.keyed g hg k m hm
        refine ⟨?_, ?_, ?_, ?_⟩ <;> intro g₁ hg₁ <;> obtain rfl := Option.some.inj hg₁
        · obtain ⟨l, hl, hmaster⟩ := (h.keyed g hg).led_iff.mp (h.led g hg)
          refine hkeyed.led_iff.mpr ⟨l, ?_, hmaster⟩
          exact (find?_set_of_ne _ _ fun heq => hnot l ((congrArg _ heq.symm).trans hl)).trans hl
        · exact hkeyed
        · exact h.id g hg
        · intro k m hm
          rw [find?_set] at hm
          split_ifs at hm with hk
          · rw [hk]
            exact Function.update_self _ _ _
          · exact (Function.update_of_ne hk _ _).trans (h.guildId g hg k m hm)

theorem Led.otherGuild (h : w.Led) (lowguid guildId : ℕ) :
    (w.otherGuild lowguid guildId).Led := by
  unfold GuildWorld.otherGuild
  cases hg : w.guild with
  | none => exact h
  | some g =>
    dsimp only
    split_ifs with hown
    · exact h
    · refine ⟨?_, ?_, ?_, ?_⟩ <;> intro g₁ hg₁ <;> obtain rfl := Option.some.inj hg₁
      · exact h.led g hg
      · exact h.keyed g hg
      · exact h.id g hg
      · intro k m hm
        have hk := h.guildId g hg k m hm
        refine (Function.update_of_ne ?_ _ _).trans hk
        rintro rfl
        exact hown (.inl hk)

/-- **One operation** keeps the guild led, if it is no handover to oneself. -/
theorem led_step (h : w.Led) {op : GuildOp} (hok : w.NotToSelf op) :
    (w.step op).Led := by
  have hlt : ∀ c : BitVec 32, characterGuid c < 2 ^ 32 := fun c => c.isLt
  cases op with
  | addNewRank player name =>
    refine h.onGuild (fun g hg => ?_) fun g hg => ?_
    · obtain ⟨ranks, heq⟩ := g.handleAddNewRank_eq (characterGuid player) name
      rw [heq]
      exact ⟨h.led g hg, h.keyed g hg⟩
    · obtain ⟨ranks, heq⟩ := g.handleAddNewRank_eq (characterGuid player) name
      rw [heq]
      exact ⟨rfl, fun k m hm => ⟨m, hm⟩⟩
  | removeLowestRank player =>
    refine h.onGuild (fun g hg => ?_) fun g hg => ?_
    · obtain ⟨ranks, heq⟩ := g.exists_handleRemoveLowestRank_eq (characterGuid player)
      rw [heq]
      exact ⟨h.led g hg, h.keyed g hg⟩
    · obtain ⟨ranks, heq⟩ := g.exists_handleRemoveLowestRank_eq (characterGuid player)
      rw [heq]
      exact ⟨rfl, fun k m hm => ⟨m, hm⟩⟩
  | addMember character c => exact h.addMember (hlt _) _ _
  | deleteMember character => exact h.deleteMember (hlt _)
  | removeMember player name =>
    unfold GuildWorld.step
    cases hg : w.guild with
    | none => exact h
    | some g =>
      have hkeyed := h.keyed g hg
      obtain heq | ⟨m, hname, -, heq⟩ := g.handleRemoveMember_cases (characterGuid player) name
      · refine h.after hg (fun g₁ hg₁ => ?_) fun g₁ hg₁ => ?_
        · cases heq.symm.trans hg₁
          exact ⟨h.led g hg, hkeyed⟩
        · cases heq.symm.trans hg₁
          exact Guild.NoNewMember.refl g
      · obtain ⟨k, hk⟩ := Guild.mem_of_getMemberByName hname
        obtain ⟨hguid, hltk⟩ := hkeyed k m hk
        refine h.after hg (fun g₁ hg₁ => ?_) fun g₁ hg₁ => ?_
        · exact (h.led g hg).deleteMember hkeyed (hguid ▸ hltk) (heq.symm.trans hg₁)
        · exact (hkeyed.noNewMember_deleteMember (heq.symm.trans hg₁)).1
  | leaveMember player =>
    unfold GuildWorld.step GuildWorld.handleLeaveMember
    cases hg : w.guild with
    | none => exact h
    | some g =>
      dsimp only
      split_ifs with hleader halone
      · exact h
      · exact led_of_guild_eq_none rfl
      · exact h.deleteMember (hlt _)
  | updateMemberRank player name demote =>
    exact h.onGuild (fun g hg => (h.led g hg).handleUpdateMemberRank (h.keyed g hg) _ _ _)
      fun g hg => (h.keyed g hg).noNewMember_handleUpdateMemberRank _ _ _
  | setLeader player name =>
    exact h.onGuild
      (fun g hg => (h.led g hg).handleSetLeader (h.keyed g hg) (hlt _) (hok g hg))
      fun g hg => (h.keyed g hg).noNewMember_handleSetLeader _ _
  | otherGuild character guildId => exact h.otherGuild _ _

section

variable {guildIdOf : ℕ → ℕ} {id : ℕ} (hid : 0 < id) {leader : BitVec 32} {name : String}
  {text : ℕ → String}
include hid

theorem led_create (h : create guildIdOf id leader name text = some w) : w.Led := by
  unfold create at h
  split_ifs at h with hfree
  cases h
  have hlow : guidLopart (characterGuid leader) = leader.toNat := Nat.mod_eq_of_lt leader.isLt
  obtain ⟨ranks, heq⟩ := (founded id (characterGuid leader)).createDefaultGuildRanks_eq text
  have hkeyed : Guild.Keyed { founded id (characterGuid leader) with
      ranks := ranks
      members := OrderedMap.empty.set leader.toNat
        (newMember (characterGuid leader) name grGuildmaster) } := by
    intro k m hm
    rw [find?_set] at hm
    split_ifs at hm with hk
    · cases hm
      exact ⟨hk.symm, hk ▸ leader.isLt⟩
    · cases hm
  simp only [GuildWorld.addMember, heq, hlow, hfree, ne_eq, not_true_eq_false, if_false,
    Candidate.admitted]
  rw [if_neg (by decide : ¬ grGuildmaster = guildRankNone)]
  refine ⟨?_, ?_, ?_, ?_⟩ <;> intro g₁ hg₁ <;> obtain rfl := Option.some.inj hg₁
  · exact hkeyed.led_iff.mpr ⟨_, find?_set_self _ _ _, rfl⟩
  · exact hkeyed
  · exact hid.ne'
  · intro k m hm
    rw [find?_set] at hm
    split_ifs at hm with hk
    · rw [hk]
      exact Function.update_self _ _ _
    · cases hm

/-- **A guild is led until it is disbanded**: after every run from its creation in which no
leader hands the guild over to himself, its leader is a member with the guild master's rank. -/
theorem led_after {w : GuildWorld} (hw : create guildIdOf id leader name text = some w)
    (ops : List GuildOp) (hok : Admissible step NotToSelf w ops) :
    ∀ g, (run step w ops).guild = some g → g.Led :=
  (run_invariant Led (fun _ _ h hok => led_step h hok) (led_create hid hw) hok).led

end

theorem led_after_handover : ∃ w g, create (fun _ => 0) 1 1 "Ana" (fun _ => "") = some w ∧
    (run step w [.addMember 2 (.inWorld "Bo"), .setLeader 1 "Bo", .deleteMember 2]).guild =
      some g ∧ g.Led := by
  refine ⟨_, _, rfl, rfl, ?_⟩
  have hcreate : create (fun _ => 0) 1 1 "Ana" (fun _ => "") = some _ := rfl
  refine led_after (by decide : 0 < 1) hcreate
    [.addMember 2 (.inWorld "Bo"), .setLeader 1 "Bo", .deleteMember 2] ?_ _ rfl
  refine ⟨trivial, fun g hg => ?_, trivial, trivial⟩
  cases hg
  decide +kernel

/-- The leader of a new guild hands it over to himself: he is promoted to the rank he has, then
demoted. -/
theorem not_led_after_handover_to_self : ∃ w g,
    create (fun _ => 0) 1 1 "Ana" (fun _ => "") = some w ∧
      (run step w [.setLeader 1 "Ana"]).guild = some g ∧ ¬ g.Led := by
  refine ⟨_, _, rfl, rfl, ?_⟩
  rintro ⟨m, hm, -, hmaster⟩
  cases hm
  exact absurd hmaster (by decide)

end GuildWorld

end TeraCore
