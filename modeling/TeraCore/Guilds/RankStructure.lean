import Mathlib.Data.Fintype.Card
import TeraCore.Guilds.Lifecycle

/-!
# Guilds: the rank structure

Ranks are a list addressed by position and members hold bare rank ids.  The two are in step when
the rank at index `i` has the id `i`, there are 5 to 10 ranks, and no member holds an id past the
last one.

The list itself is always well formed.  What can fail is the last part: the lowest rank is
removed without a look at who holds it, and the repair of a loaded guild lets a member keep the
id that is one past the last rank.

## Main results

* `Guild.deleteMember_cases`: what the departure of a member does
* `GuildWorld.ranksInStep_step`: every operation keeps the two in step, if only vacant ranks are
  removed
* `Guild.ranksInStep_validate_iff`: when the repair of a loaded guild puts them in step
-/

namespace TeraCore

open Commons OrderedMap

namespace Guild

/-! ## The list of ranks -/

/-- The rank at index `i` has the id `i`. -/
def RankIds (l : List RankInfo) : Prop := ∀ (i : ℕ) (h : i < l.length), l[i].rankId.toNat = i

/-- **A well-formed list of ranks.** -/
structure RankList (l : List RankInfo) : Prop where
  ids : RankIds l
  min : guildRanksMinCount.toNat ≤ l.length
  max : l.length ≤ guildRanksMaxCount.toNat

/-- **The ranks and their members are in step.** -/
structure RanksInStep (g : Guild) : Prop where
  ranks : RankList g.ranks
  held : ∀ k m, g.members.find? k = some m → m.rankId.toNat < g.ranks.length

theorem minCount_toNat : guildRanksMinCount.toNat = 5 := rfl

theorem maxCount_toNat : guildRanksMaxCount.toNat = 10 := rfl

theorem RankIds.append {l : List RankInfo} (h : RankIds l) {r : RankInfo}
    (hr : r.rankId.toNat = l.length) : RankIds (l ++ [r]) := by
  intro i hi
  rw [List.length_append, List.length_singleton] at hi
  rcases Nat.lt_or_ge i l.length with hlt | hge
  · rw [List.getElem_append_left hlt]
    exact h i hlt
  · obtain rfl : i = l.length := by omega
    rw [List.getElem_append_right hge]
    simpa using hr

theorem RankIds.dropLast {l : List RankInfo} (h : RankIds l) : RankIds l.dropLast := by
  intro i hi
  rw [List.getElem_dropLast]
  exact h i _

theorem RankIds.map {l : List RankInfo} (h : RankIds l) {f : RankInfo → RankInfo}
    (hf : ∀ r, (f r).rankId = r.rankId) : RankIds (l.map f) := by
  intro i hi
  rw [List.getElem_map, hf]
  exact h i _

variable {g g' : Guild} {m : Member} {lowguid k : ℕ}

theorem getRanksSize_toNat (h : g.ranks.length < 256) :
    g.getRanksSize.toNat = g.ranks.length := by
  rw [getRanksSize, BitVec.toNat_ofNat]
  exact Nat.mod_eq_of_lt h

theorem getLowestRankId_toNat (h : g.ranks.length ≤ 256) :
    g.getLowestRankId.toNat = g.ranks.length - 1 := by
  rw [getLowestRankId, BitVec.toNat_ofNat]
  exact Nat.mod_eq_of_lt (by omega)

theorem exists_createRank_eq (h : ∃ ranks, g' = { g with ranks := ranks })
    (name : String) (rights : BitVec 32) :
    ∃ ranks, g'.createRank name rights = { g with ranks := ranks } := by
  obtain ⟨ranks, rfl⟩ := h
  unfold createRank
  dsimp only
  split_ifs
  · exact ⟨ranks, rfl⟩
  · exact ⟨_, rfl⟩

theorem createRank_members (g : Guild) (name : String) (rights : BitVec 32) :
    (g.createRank name rights).members = g.members := by
  obtain ⟨ranks, heq⟩ := exists_createRank_eq ⟨g.ranks, rfl⟩ name rights
  rw [heq]

theorem createDefaultGuildRanks_eq (g : Guild) (text : ℕ → String) :
    ∃ ranks, g.createDefaultGuildRanks text = { g with ranks := ranks } := by
  unfold createDefaultGuildRanks
  iterate 5 refine exists_createRank_eq ?_ _ _
  exact ⟨g.ranks, rfl⟩

theorem createRank_ranks (h : g.ranks.length < 10) (name : String) (rights : BitVec 32) :
    (g.createRank name rights).ranks =
      g.ranks ++ [RankInfo.new (BitVec.ofNat 8 g.ranks.length) name rights] := by
  have hsize := getRanksSize_toNat (g := g) (by omega)
  have hlt : ¬ guildRanksMaxCount ≤ g.getRanksSize := by
    rw [BitVec.le_def, hsize, maxCount_toNat]
    omega
  simp only [createRank, if_neg hlt]
  rfl

theorem RankIds.createRank (h : RankIds g.ranks) (hlt : g.ranks.length < 10)
    (name : String) (rights : BitVec 32) : RankIds (g.createRank name rights).ranks := by
  rw [createRank_ranks hlt]
  refine h.append ?_
  rw [RankInfo.new, BitVec.toNat_ofNat]
  exact Nat.mod_eq_of_lt (by omega)

theorem length_createRank (h : g.ranks.length < 10) (name : String)
    (rights : BitVec 32) : (g.createRank name rights).ranks.length = g.ranks.length + 1 := by
  simp [createRank_ranks h]

theorem createDefaultGuildRanks_ranks (h : g.ranks = []) (text : ℕ → String) :
    RankIds (g.createDefaultGuildRanks text).ranks ∧
      (g.createDefaultGuildRanks text).ranks.length = 5 := by
  have hids : RankIds g.ranks := by
    rw [h]
    exact fun i hi => absurd hi (Nat.not_lt_zero i)
  have hlen : g.ranks.length = 0 := by simp [h]
  have hstep : ∀ (n : ℕ) (g : Guild) (name : String) (rights : BitVec 32), n < 5 →
      RankIds g.ranks ∧ g.ranks.length = n →
      RankIds (g.createRank name rights).ranks ∧
        (g.createRank name rights).ranks.length = n + 1 := by
    rintro n g name rights hn ⟨hids, rfl⟩
    exact ⟨hids.createRank (by omega) _ _, length_createRank (by omega) _ _⟩
  unfold createDefaultGuildRanks
  exact hstep 4 _ _ _ (by omega) (hstep 3 _ _ _ (by omega) (hstep 2 _ _ _ (by omega)
    (hstep 1 _ _ _ (by omega) (hstep 0 _ _ _ (by omega) ⟨hids, hlen⟩))))

theorem rankList_createDefaultGuildRanks (h : g.ranks = []) (text : ℕ → String) :
    RankList (g.createDefaultGuildRanks text).ranks := by
  obtain ⟨hids, hlen⟩ := createDefaultGuildRanks_ranks h text
  exact ⟨hids, by rw [hlen, minCount_toNat], by rw [hlen, maxCount_toNat]; omega⟩

/-! ## The commands on the ranks -/

theorem RanksInStep.length_lt (h : g.RanksInStep) : g.ranks.length < 256 := by
  have := h.ranks.max
  rw [maxCount_toNat] at this
  omega

theorem RanksInStep.handleAddNewRank (h : g.RanksInStep) (player : Guid)
    (name : String) : (g.handleAddNewRank player name).RanksInStep := by
  unfold Guild.handleAddNewRank
  split_ifs with hfull hleader
  · exact h
  · have hlt : g.ranks.length < 10 := by
      rw [BitVec.le_def, getRanksSize_toNat h.length_lt, maxCount_toNat] at hfull
      omega
    have hmin := h.ranks.min
    refine ⟨⟨h.ranks.ids.createRank hlt _ _, ?_, ?_⟩, fun k m hm => ?_⟩
    · rw [length_createRank hlt]
      omega
    · rw [length_createRank hlt, maxCount_toNat]
      omega
    · rw [createRank_members] at hm
      rw [length_createRank hlt]
      exact Nat.lt_succ_of_lt (h.held k m hm)
  · exact h

/-- Does the player's removal take the last rank away? -/
def removes (g : Guild) (player : Guid) : Bool :=
  guildRanksMinCount < g.getRanksSize && g.isLeader player

/-- **A vacant lowest rank**: no member holds it. -/
def Vacant (g : Guild) : Prop :=
  ∀ m ∈ g.members.values, m.rankId ≠ g.getLowestRankId

instance (g : Guild) : Decidable g.Vacant := by
  unfold Vacant
  infer_instance

theorem handleRemoveLowestRank_eq (h : RankList g.ranks) (player : Guid) :
    g.handleRemoveLowestRank player =
      if g.removes player then { g with ranks := g.ranks.dropLast } else g := by
  have hmin := h.min
  have hmax := h.max
  rw [minCount_toNat] at hmin
  rw [maxCount_toNat] at hmax
  have hlow : ¬ g.getRanksSize ≤ g.getLowestRankId := by
    rw [BitVec.le_def, getRanksSize_toNat (by omega), getLowestRankId_toNat (by omega)]
    omega
  unfold handleRemoveLowestRank handleRemoveRank removes
  by_cases hle : g.getRanksSize ≤ guildRanksMinCount
  · simp [hle, BitVec.not_lt.mpr hle]
  · cases g.isLeader player <;> simp [hle, hlow, BitVec.not_le.mp hle]

theorem RankList.dropLast (h : RankList g.ranks) {player : Guid}
    (hr : g.removes player = true) : RankList g.ranks.dropLast := by
  have hmax := h.max
  rw [maxCount_toNat] at hmax
  simp only [removes, Bool.and_eq_true, decide_eq_true_eq, BitVec.lt_def,
    getRanksSize_toNat (g := g) (by omega), minCount_toNat] at hr
  refine ⟨h.ids.dropLast, ?_, ?_⟩
  · rw [List.length_dropLast, minCount_toNat]
    omega
  · rw [List.length_dropLast, maxCount_toNat]
    omega

theorem RanksInStep.handleRemoveLowestRank_iff (h : g.RanksInStep) (player : Guid) :
    (g.handleRemoveLowestRank player).RanksInStep ↔ (g.removes player = true → g.Vacant) := by
  have hlow := getLowestRankId_toNat (g := g) (by have := h.length_lt; omega)
  rw [handleRemoveLowestRank_eq h.ranks]
  split_ifs with hr
  · simp only [hr, forall_const]
    constructor
    · intro hstep m hm heq
      obtain ⟨k, hk⟩ := mem_values.mp hm
      have hlt := hstep.held k m hk
      rw [heq, hlow, List.length_dropLast] at hlt
      exact lt_irrefl _ hlt
    · intro hvacant
      refine ⟨h.ranks.dropLast hr, fun k m hm => ?_⟩
      have hlt := h.held k m hm
      have hne : m.rankId.toNat ≠ g.ranks.length - 1 := by
        rw [← hlow]
        exact fun heq => hvacant m (mem_values.mpr ⟨k, hm⟩) (BitVec.eq_of_toNat_eq heq)
      rw [List.length_dropLast]
      omega
  · simp [hr, h]

/-! ## The members -/

theorem RanksInStep.setMember (h : g.RanksInStep)
    (hm : m.rankId.toNat < g.ranks.length) : (g.setMember m).RanksInStep := by
  refine ⟨h.ranks, fun k m' hm' => ?_⟩
  rw [Guild.setMember, find?_set] at hm'
  split_ifs at hm' with hk
  · cases hm'
    exact hm
  · exact h.held k m' hm'

theorem RanksInStep.length_pos (h : g.RanksInStep) : 0 < g.ranks.length := by
  have := h.ranks.min
  rw [minCount_toNat] at this
  omega

theorem RanksInStep.setLeaderGUID (h : g.RanksInStep) (m : Member) :
    (g.setLeaderGUID m).RanksInStep := by
  have hg : Guild.RanksInStep { g with leaderGuid := m.guid } := ⟨h.ranks, h.held⟩
  exact hg.setMember h.length_pos

theorem RanksInStep.erase (h : g.RanksInStep) (lowguid : ℕ) :
    Guild.RanksInStep { g with members := g.members.erase lowguid } := by
  refine ⟨h.ranks, fun k m hm => ?_⟩
  rw [find?_erase] at hm
  split_ifs at hm with hk
  exact h.held k m hm

/-- **The departure of a member**: it is erased, after a leader has been succeeded. -/
theorem deleteMember_cases {guid : Guid} (h : g.deleteMember guid = some g') :
    (g.leaderGuid ≠ guid ∧ g' = { g with members := g.members.erase (guidLopart guid) }) ∨
    (g.leaderGuid = guid ∧ ∃ l, g.findNewLeader (guidLopart guid) = some l ∧
      g' = { g.setLeaderGUID l with
        members := (g.setLeaderGUID l).members.erase (guidLopart guid) }) := by
  unfold Guild.deleteMember at h
  dsimp only at h
  split_ifs at h with hleader
  · cases hnew : g.findNewLeader (guidLopart guid) with
    | none =>
      rw [hnew] at h
      cases h
    | some l =>
      rw [hnew] at h
      exact .inr ⟨hleader, l, rfl, (Option.some.inj h).symm⟩
  · exact .inl ⟨hleader, (Option.some.inj h).symm⟩

theorem RanksInStep.deleteMember (h : g.RanksInStep) {guid : Guid}
    (hg : g.deleteMember guid = some g') : g'.RanksInStep := by
  obtain ⟨-, rfl⟩ | ⟨-, l, -, rfl⟩ := deleteMember_cases hg
  · exact h.erase _
  · exact (h.setLeaderGUID l).erase _

theorem handleRemoveMember_cases (g : Guild) (player : Guid) (name : String) :
    (g.handleRemoveMember player name).2 = some g ∨
      ∃ m, g.getMemberByName name = some m ∧ m.rankId ≠ grGuildmaster ∧
        (g.handleRemoveMember player name).2 = g.deleteMember m.guid := by
  unfold handleRemoveMember
  split_ifs with hright
  · exact .inl rfl
  · cases hname : g.getMemberByName name with
    | none => exact .inl rfl
    | some m =>
      dsimp only
      split_ifs with hmaster
      · exact .inl rfl
      · cases g.getMember player with
        | none => exact .inl rfl
        | some me =>
          dsimp only
          split_ifs with hrank
          · exact .inl rfl
          · exact .inr ⟨m, rfl, by simpa [Member.isRank] using hmaster, rfl⟩

/-- A promotion or a demotion moves the named member by one rank: down, above the lowest one, or
up from below a rank. Neither touches the guild master's rank. -/
theorem handleUpdateMemberRank_cases (g : Guild) (player : Guid) (name : String)
    (demote : Bool) :
    (g.handleUpdateMemberRank player name demote).2 = g ∨
      ∃ m, g.getMemberByName name = some m ∧ m.rankId ≠ grGuildmaster ∧
        ((m.rankId < g.getLowestRankId ∧ (g.handleUpdateMemberRank player name demote).2 =
            g.setMember (m.changeRank (m.rankId + 1))) ∨
          (g.handleUpdateMemberRank player name demote).2 =
            g.setMember (m.changeRank (m.rankId - 1))) := by
  have hne : ∀ (m : Member) (r : BitVec 8), ¬ m.isRankNotLower r = true →
      m.rankId ≠ grGuildmaster := by
    rintro m r hrank heq
    refine hrank ?_
    simp [Member.isRankNotLower, heq, grGuildmaster, BitVec.le_def]
  unfold handleUpdateMemberRank
  generalize (if demote = true then grRightDemote else grRightPromote) = right
  cases g.hasRankRight player right with
  | false => exact .inl rfl
  | true =>
    cases hname : g.getMemberByName name with
    | none => exact .inl rfl
    | some m =>
      cases g.getMember player with
      | none =>
        left
        dsimp only
        split_ifs <;> rfl
      | some me =>
        cases hself : m.isSamePlayer player with
        | true => exact .inl (by simp [hself])
        | false =>
          cases demote with
          | true =>
            simp only [hself, Bool.not_true, Bool.false_eq_true, if_false, if_true]
            split_ifs with hrank hlow
            · exact .inl rfl
            · exact .inl rfl
            · exact .inr ⟨m, rfl, hne m _ hrank, .inl ⟨BitVec.not_le.mp hlow, rfl⟩⟩
          | false =>
            simp only [hself, Bool.not_true, Bool.false_eq_true, if_false]
            split_ifs with hrank
            · exact .inl rfl
            · exact .inr ⟨m, rfl, hne m _ hrank, .inr rfl⟩

theorem mem_of_getMemberByName {name : String}
    (h : g.getMemberByName name = some m) : ∃ k, g.members.find? k = some m :=
  mem_values.mp (List.mem_of_find?_eq_some h)

theorem RanksInStep.handleUpdateMemberRank (h : g.RanksInStep) (player : Guid)
    (name : String) (demote : Bool) :
    (g.handleUpdateMemberRank player name demote).2.RanksInStep := by
  obtain heq | ⟨m, hname, hne, ⟨hlow, heq⟩ | heq⟩ :=
    handleUpdateMemberRank_cases g player name demote
  · rwa [heq]
  · rw [heq]
    have hlen := h.length_lt
    refine h.setMember ?_
    rw [BitVec.lt_def, getLowestRankId_toNat hlen.le] at hlow
    rw [Member.changeRank, BitVec.toNat_add, Nat.mod_eq_of_lt]
    · exact Nat.add_lt_of_lt_sub hlow
    · change m.rankId.toNat + 1 < 256
      omega
  · rw [heq]
    obtain ⟨k, hk⟩ := mem_of_getMemberByName hname
    have hheld := h.held k m hk
    have hpos : 0 < m.rankId.toNat := Nat.pos_of_ne_zero fun h0 => hne (BitVec.eq_of_toNat_eq h0)
    refine h.setMember ?_
    have : (m.changeRank (m.rankId - 1)).rankId.toNat = m.rankId.toNat - 1 := by
      rw [Member.changeRank]
      bv_omega
    omega

theorem RanksInStep.handleSetLeader (h : g.RanksInStep) (player : Guid)
    (name : String) : (g.handleSetLeader player name).2.RanksInStep := by
  unfold Guild.handleSetLeader
  split_ifs with hleader
  · exact h
  · cases g.getMember player with
    | none => exact h
    | some old =>
      cases g.getMemberByName name with
      | none => exact h
      | some new =>
        refine (h.setLeaderGUID new).setMember ?_
        have := h.ranks.min
        rw [minCount_toNat] at this
        change 1 < g.ranks.length
        omega

/-! ## The repair of a loaded guild -/

/-- The number of ranks after the repair: the loaded one, or that of the default ranks. -/
def repairedRanksSize (g : Guild) : ℕ := if g.brokenRanks then 5 else g.ranks.length

/-- The loaded ranks are in the order of their ids, each id once. -/
def RankRows (l : List RankInfo) : Prop := l.Pairwise fun r r' => r.rankId < r'.rankId

theorem RankRows.length_le {l : List RankInfo} (h : RankRows l) : l.length ≤ 256 := by
  have hnodup : (l.map fun r => (r.rankId.toFin : Fin 256)).Nodup := by
    refine List.pairwise_map.mpr (h.imp fun {r r'} hlt heq => ?_)
    exact absurd (BitVec.eq_of_toFin_eq heq) (BitVec.ne_of_lt hlt)
  simpa using hnodup.length_le_card

theorem rankList_of_brokenRanks_eq_false (hrows : RankRows g.ranks)
    (h : g.brokenRanks = false) : RankList g.ranks := by
  simp only [brokenRanks, Bool.or_eq_false_iff, decide_eq_false_iff_not, BitVec.not_lt,
    BitVec.le_def] at h
  obtain ⟨⟨hmin, hmax⟩, hids⟩ := h
  have hle := hrows.length_le
  have hlen : g.ranks.length < 256 := by
    refine lt_of_le_of_ne hle fun heq => ?_
    rw [getRanksSize, heq] at hmin
    exact absurd hmin (by decide)
  rw [getRanksSize_toNat hlen] at hmin hmax hids
  refine ⟨fun i hi => ?_, hmin, hmax⟩
  rw [List.take_length, List.any_eq_false] at hids
  simpa using hids (g.ranks[i], i) (List.mem_zipIdx_iff_getElem?.mpr (by simp [hi]))

theorem repairRanks_eq (g : Guild) (text : ℕ → String) :
    ∃ ranks, g.repairRanks text = { g with ranks := ranks } := by
  unfold repairRanks
  split_ifs
  · exact createDefaultGuildRanks_eq _ _
  · exact ⟨_, rfl⟩

theorem repairRanks_members (g : Guild) (text : ℕ → String) :
    (g.repairRanks text).members = g.members := by
  obtain ⟨ranks, heq⟩ := g.repairRanks_eq text
  rw [heq]

theorem repairRanks_leaderGuid (g : Guild) (text : ℕ → String) :
    (g.repairRanks text).leaderGuid = g.leaderGuid := by
  obtain ⟨ranks, heq⟩ := g.repairRanks_eq text
  rw [heq]

theorem rankList_repairRanks (hrows : RankRows g.ranks) (text : ℕ → String) :
    RankList (g.repairRanks text).ranks ∧
      (g.repairRanks text).ranks.length = g.repairedRanksSize := by
  unfold repairRanks repairedRanksSize
  split_ifs with hbroken
  · exact ⟨rankList_createDefaultGuildRanks rfl text, (createDefaultGuildRanks_ranks rfl text).2⟩
  · obtain ⟨hids, hmin, hmax⟩ :=
      rankList_of_brokenRanks_eq_false hrows (Bool.eq_false_iff.mpr hbroken)
    refine ⟨⟨hids.map fun _ => rfl, ?_, ?_⟩, List.length_map _⟩
    · simpa using hmin
    · simpa using hmax

/-- **A guild as it is read from the database**: the rows of a table have their own ids, and
guids come from the numbers of characters. -/
structure Loaded (g : Guild) : Prop where
  ranks : RankRows g.ranks
  leader : g.leaderGuid < 2 ^ 32
  members : ∀ k m, g.members.find? k = some m → m.guid = k ∧ k < 2 ^ 32

/-- One turn of the walk that looks for a new leader. -/
def betterLeader (lowguid : ℕ) (newLeader : Option Member) (e : ℕ × Member) : Option Member :=
  if e.1 = lowguid then newLeader
  else match newLeader with
    | none => some e.2
    | some l => if e.2.rankId < l.rankId then some e.2 else some l

theorem findNewLeader_eq (g : Guild) (lowguid : ℕ) :
    g.findNewLeader lowguid = g.members.entries.foldl (betterLeader lowguid) none := rfl

/-- The candidate has the highest rank among the entries seen so far. -/
structure BestSoFar (lowguid : ℕ) (seen : List (ℕ × Member)) (l : Member) : Prop where
  mem : ∃ k, k ≠ lowguid ∧ (k, l) ∈ seen
  le : ∀ e ∈ seen, e.1 ≠ lowguid → l.rankId ≤ e.2.rankId

theorem bestSoFar_betterLeader {seen : List (ℕ × Member)} {c : Option Member}
    (hnone : c = none → ∀ e ∈ seen, e.1 = lowguid)
    (hsome : ∀ l, c = some l → BestSoFar lowguid seen l) (e : ℕ × Member) :
    (betterLeader lowguid c e = none → ∀ e' ∈ seen ++ [e], e'.1 = lowguid) ∧
      ∀ l, betterLeader lowguid c e = some l → BestSoFar lowguid (seen ++ [e]) l := by
  unfold betterLeader
  by_cases hk : e.1 = lowguid
  · simp only [hk, if_true]
    refine ⟨fun hc e' he' => ?_, fun l hl => ⟨?_, fun e' he' hne => ?_⟩⟩
    · rcases List.mem_append.mp he' with he' | he'
      · exact hnone hc e' he'
      · rwa [List.mem_singleton.mp he']
    · obtain ⟨k, hk', hmem⟩ := (hsome l hl).mem
      exact ⟨k, hk', List.mem_append_left _ hmem⟩
    · rcases List.mem_append.mp he' with he' | he'
      · exact (hsome l hl).le e' he' hne
      · rw [List.mem_singleton.mp he'] at hne
        exact absurd hk hne
  · simp only [hk, if_false]
    have hself : ∃ k, k ≠ lowguid ∧ (k, e.2) ∈ seen ++ [e] := ⟨e.1, hk, by simp⟩
    cases c with
    | none =>
      refine ⟨fun hc => (nomatch hc), fun l hl => ?_⟩
      cases hl
      refine ⟨hself, fun e' he' hne => ?_⟩
      rcases List.mem_append.mp he' with he' | he'
      · exact absurd (hnone rfl e' he') hne
      · rw [List.mem_singleton.mp he']
        exact BitVec.le_refl _
    | some l₀ =>
      obtain ⟨⟨k, hk', hmem⟩, hmin⟩ := hsome l₀ rfl
      dsimp only
      split_ifs with hlt
      · refine ⟨fun hc => (nomatch hc), fun l hl => ?_⟩
        cases hl
        refine ⟨hself, fun e' he' hne => ?_⟩
        rcases List.mem_append.mp he' with he' | he'
        · exact BitVec.le_trans (BitVec.le_of_lt hlt) (hmin e' he' hne)
        · rw [List.mem_singleton.mp he']
          exact BitVec.le_refl _
      · refine ⟨fun hc => (nomatch hc), fun l hl => ?_⟩
        cases hl
        refine ⟨⟨k, hk', List.mem_append_left _ hmem⟩, fun e' he' hne => ?_⟩
        rcases List.mem_append.mp he' with he' | he'
        · exact hmin e' he' hne
        · rw [List.mem_singleton.mp he']
          exact BitVec.not_lt.mp hlt

theorem bestSoFar_foldl (es : List (ℕ × Member)) :
    ∀ (seen : List (ℕ × Member)) (c : Option Member),
      (c = none → ∀ e ∈ seen, e.1 = lowguid) → (∀ l, c = some l → BestSoFar lowguid seen l) →
      (es.foldl (betterLeader lowguid) c = none → ∀ e ∈ seen ++ es, e.1 = lowguid) ∧
        ∀ l, es.foldl (betterLeader lowguid) c = some l → BestSoFar lowguid (seen ++ es) l := by
  induction es with
  | nil =>
    intro seen c hnone hsome
    simp only [List.foldl_nil, List.append_nil]
    exact ⟨hnone, hsome⟩
  | cons e es ih =>
    intro seen c hnone hsome
    obtain ⟨hnone', hsome'⟩ := bestSoFar_betterLeader hnone hsome e
    rw [List.foldl_cons, List.append_cons]
    exact ih _ _ hnone' hsome'

/-- The succession takes a member other than the one who leaves, of the highest rank. -/
theorem findNewLeader_spec {l : Member} (h : g.findNewLeader lowguid = some l) :
    ∃ k, k ≠ lowguid ∧ g.members.find? k = some l ∧
      ∀ k' m, k' ≠ lowguid → g.members.find? k' = some m → l.rankId ≤ m.rankId := by
  rw [findNewLeader_eq] at h
  obtain ⟨⟨k, hk, hmem⟩, hmin⟩ := (bestSoFar_foldl g.members.entries [] none
    (fun _ e he => by cases he) (fun l hl => by cases hl)).2 l h
  refine ⟨k, hk, mem_entries.mp hmem, fun k' m hk' hm => ?_⟩
  exact hmin (k', m) (mem_entries.mpr hm) hk'

theorem findNewLeader_eq_none (h : g.findNewLeader lowguid = none)
    (hm : g.members.find? k = some m) : k = lowguid := by
  rw [findNewLeader_eq] at h
  exact (bestSoFar_foldl g.members.entries [] none
    (fun _ e he => by cases he) (fun l hl => by cases hl)).1 h (k, m)
    (mem_entries.mpr hm)

/-! ### The members after the repair -/

theorem find?_repairMembers (g : Guild) (k : ℕ) :
    g.repairMembers.members.find? k = (g.members.find? k).map fun m =>
      if g.getRanksSize < m.rankId then m.changeRank g.getLowestRankId else m :=
  find?_mapVals _ _ _

theorem repairLeader_spec (hleader : g.leaderGuid < 2 ^ 32)
    (hkeyed : ∀ k m, g.members.find? k = some m → m.guid = k ∧ k < 2 ^ 32)
    (h : g.repairLeader = some g') :
    ∃ k₀ m₀, g'.ranks = g.ranks ∧ g.members.find? k₀ = some m₀ ∧
      (∀ k m, g'.members.find? k = some m →
        (k = k₀ ∧ m.rankId = grGuildmaster) ∨ (k ≠ k₀ ∧ g.members.find? k = some m)) ∧
      (∀ k m, k ≠ k₀ → g.members.find? k = some m → g'.members.find? k = some m) ∧
      (k₀ = g.leaderGuid ∨ (g.members.find? g.leaderGuid = none ∧
        ∀ k m, g.members.find? k = some m → m₀.rankId ≤ m.rankId)) := by
  have hlow : guidLopart g.leaderGuid = g.leaderGuid := Nat.mod_eq_of_lt hleader
  -- setting the leader rewrites the entry of one member
  have hset : ∀ {k₀ : ℕ} {m₀ : Member}, g.members.find? k₀ = some m₀ → ∀ k,
      (g.setLeaderGUID m₀).members.find? k =
        if k = k₀ then some (m₀.changeRank grGuildmaster) else g.members.find? k := by
    intro k₀ m₀ hm₀ k
    obtain ⟨hguid, hlt⟩ := hkeyed k₀ m₀ hm₀
    have hkey : guidLopart (m₀.changeRank grGuildmaster).guid = k₀ := by
      rw [Member.changeRank, hguid]
      exact Nat.mod_eq_of_lt hlt
    rw [setLeaderGUID, setMember, hkey]
    exact find?_set _ _ _ _
  unfold repairLeader at h
  rw [getMember, hlow] at h
  cases hmem : g.members.find? g.leaderGuid with
  | some m₀ =>
    rw [hmem] at h
    dsimp only at h
    split_ifs at h with hmaster
    · cases h
      refine ⟨_, m₀, rfl, hmem, fun k m hm => ?_, fun k m _ hm => hm, .inl rfl⟩
      rcases eq_or_ne k g.leaderGuid with rfl | hk
      · cases hmem.symm.trans hm
        exact .inl ⟨rfl, by simpa [Member.isRank] using hmaster⟩
      · exact .inr ⟨hk, hm⟩
    · cases h
      refine ⟨_, m₀, rfl, hmem, fun k m hm => ?_, fun k m hk hm => ?_, .inl rfl⟩
      · rw [hset hmem] at hm
        split_ifs at hm with hk
        · cases hm
          exact .inl ⟨hk, rfl⟩
        · exact .inr ⟨hk, hm⟩
      · rwa [hset hmem, if_neg hk]
  | none =>
    rw [hmem] at h
    obtain ⟨hne, -⟩ | ⟨-, m₀, hnew, rfl⟩ := deleteMember_cases h
    · exact absurd rfl hne
    · rw [hlow] at hnew ⊢
      obtain ⟨k₀, hk₀, hm₀, hmin⟩ := findNewLeader_spec hnew
      -- the old leader is no member: the erasure changes nothing
      have herase : ∀ k, ((g.setLeaderGUID m₀).members.erase g.leaderGuid).find? k =
          if k = k₀ then some (m₀.changeRank grGuildmaster) else g.members.find? k := by
        intro k
        rw [find?_erase, hset hm₀]
        by_cases hk : k = g.leaderGuid
        · subst hk
          rw [if_pos rfl, if_neg hk₀.symm, hmem]
        · rw [if_neg hk]
      refine ⟨k₀, m₀, rfl, hm₀, fun k m hm => ?_, fun k m hk hm => ?_,
        .inr ⟨rfl, fun k m hm => hmin k m ?_ hm⟩⟩
      · rw [herase] at hm
        split_ifs at hm with hk
        · cases hm
          exact .inl ⟨hk, rfl⟩
        · exact .inr ⟨hk, hm⟩
      · rwa [herase, if_neg hk]
      · rintro rfl
        rw [hmem] at hm
        cases hm

/-- The last part of the repair moves members between the two highest ranks only. -/
theorem ranksInStep_repairGuildmasters (h : RankList g.ranks) (allow : Bool) :
    (g.repairGuildmasters allow).RanksInStep ↔ g.RanksInStep := by
  have hmin := h.min
  rw [minCount_toNat] at hmin
  unfold repairGuildmasters
  split_ifs with hallow
  · rfl
  constructor
  · rintro ⟨-, hheld⟩
    refine ⟨h, fun k m hm => ?_⟩
    have hm' := hheld k _ ((find?_mapVals _ _ _).trans (congrArg _ hm))
    dsimp only at hm'
    split_ifs at hm' with hmaster
    · rw [hmaster.1]
      exact Nat.lt_of_lt_of_le (by decide) hmin
    · exact hm'
  · rintro ⟨-, hheld⟩
    refine ⟨h, fun k m hm => ?_⟩
    rw [find?_mapVals] at hm
    obtain ⟨m₀, hm₀, rfl⟩ := Option.map_eq_some_iff.mp hm
    split_ifs with hmaster
    · exact Nat.lt_of_lt_of_le (by decide : 1 < 5) hmin
    · exact hheld k m₀ hm₀

/-- **Nobody is one past the last rank**: a loaded rank id equal to the number of ranks is the
leader's, or the only member's. -/
def NonePastLast (g : Guild) : Prop :=
  ∀ m ∈ g.members.values, m.rankId.toNat = g.repairedRanksSize →
    m.guid = g.leaderGuid ∨ g.members.size = 1

instance (g : Guild) : Decidable g.NonePastLast := by
  unfold NonePastLast
  infer_instance

/-- A repaired member keeps its guid. It holds a rank of the guild, unless it was one past the
last one: then it is as it was. -/
def Repaired (n : ℕ) (m m₁ : Member) : Prop :=
  m₁.guid = m.guid ∧ (m.rankId.toNat ≠ n ∧ m₁.rankId.toNat < n ∨ m.rankId.toNat = n ∧ m₁ = m)

theorem repaired (hg : g.Loaded) (text : ℕ → String) (k : ℕ) :
    (g.members.find? k = none ∧ (g.repairRanks text).repairMembers.members.find? k = none) ∨
      ∃ m m₁, g.members.find? k = some m ∧
        (g.repairRanks text).repairMembers.members.find? k = some m₁ ∧
        Repaired g.repairedRanksSize m m₁ := by
  obtain ⟨⟨-, hmin, hmax⟩, hlen⟩ := rankList_repairRanks hg.ranks text
  rw [minCount_toNat] at hmin
  rw [maxCount_toNat] at hmax
  have hsize := getRanksSize_toNat (g := g.repairRanks text) (by omega)
  have hlow := getLowestRankId_toNat (g := g.repairRanks text) (by omega)
  rw [find?_repairMembers, repairRanks_members]
  cases g.members.find? k with
  | none => exact .inl ⟨rfl, rfl⟩
  | some m =>
    refine .inr ⟨m, _, rfl, rfl, ?_⟩
    dsimp only
    split_ifs with hlt
    · rw [BitVec.lt_def, hsize, hlen] at hlt
      refine ⟨rfl, .inl ⟨by omega, ?_⟩⟩
      rw [Member.changeRank, hlow, hlen]
      omega
    · rw [BitVec.lt_def, hsize, hlen] at hlt
      refine ⟨rfl, ?_⟩
      rcases eq_or_ne m.rankId.toNat g.repairedRanksSize with heq | hne
      · exact .inr ⟨heq, rfl⟩
      · exact .inl ⟨hne, by omega⟩

theorem exists_repaired (hg : g.Loaded) (text : ℕ → String) (hm : g.members.find? k = some m) :
    ∃ m₁, (g.repairRanks text).repairMembers.members.find? k = some m₁ ∧
      Repaired g.repairedRanksSize m m₁ := by
  obtain ⟨hno, -⟩ | ⟨m', m₁, hm', hm₁, hrep⟩ := repaired hg text k
  · rw [hno] at hm
    cases hm
  · cases hm.symm.trans hm'
    exact ⟨m₁, hm₁, hrep⟩

theorem exists_of_repaired (hg : g.Loaded) (text : ℕ → String) {m₁ : Member}
    (hm₁ : (g.repairRanks text).repairMembers.members.find? k = some m₁) :
    ∃ m, g.members.find? k = some m ∧ Repaired g.repairedRanksSize m m₁ := by
  obtain ⟨-, hno⟩ | ⟨m, m₁', hm, hm₁', hrep⟩ := repaired hg text k
  · rw [hno] at hm₁
    cases hm₁
  · cases hm₁.symm.trans hm₁'
    exact ⟨m, hm, hrep⟩

theorem ranksInStep_validate_iff (hg : g.Loaded) {text : ℕ → String}
    {allow : Bool} (h : g.validate text allow = some g') : g'.RanksInStep ↔ g.NonePastLast := by
  obtain ⟨g₂, hg₂, rfl⟩ := Option.map_eq_some_iff.mp h
  obtain ⟨hranks, hlen⟩ := rankList_repairRanks hg.ranks text
  have hlead : (g.repairRanks text).repairMembers.leaderGuid = g.leaderGuid :=
    repairRanks_leaderGuid g text
  obtain ⟨k₀, m₀, hr₂, hm₀, hof, hto, hk₀⟩ := repairLeader_spec (by rw [hlead]; exact hg.leader)
    (fun k m₁ hm₁ => by
      obtain ⟨m, hm, hguid, -⟩ := exists_of_repaired hg text hm₁
      rw [hguid]
      exact hg.members k m hm) hg₂
  rw [hlead] at hk₀
  change g₂.ranks = (g.repairRanks text).ranks at hr₂
  rw [ranksInStep_repairGuildmasters (by rw [hr₂]; exact hranks)]
  constructor
  · -- a member one past the last rank must have become the leader
    rintro ⟨-, hheld⟩ m hm heq
    rw [hr₂, hlen] at hheld
    obtain ⟨k, hk⟩ := mem_values.mp hm
    obtain ⟨m₁, hk₁, hrep⟩ := exists_repaired hg text hk
    obtain ⟨hne, -⟩ | ⟨-, rfl⟩ := hrep.2
    · exact absurd heq hne
    have hkk : k = k₀ := by
      by_contra hne
      exact (hheld k _ (hto k _ hne hk₁)).ne heq
    subst hkk
    rcases hk₀ with rfl | ⟨-, hbest⟩
    · exact .inl (hg.members _ _ hk).1
    · -- elected with that rank: nobody else has a better one, or the same
      cases hk₁.symm.trans hm₀
      refine .inr ((size_eq_one_iff hk).mpr fun j w hj => ?_)
      by_contra hne
      obtain ⟨w₁, hw₁, -, ⟨-, hlt⟩ | ⟨hw, rfl⟩⟩ := exists_repaired hg text hj
      · have hle := hbest j w₁ hw₁
        rw [BitVec.le_def, heq] at hle
        omega
      · exact (hheld j _ (hto j _ hne hw₁)).ne hw
  · intro hnone
    have hmin := hranks.min
    rw [minCount_toNat, hlen] at hmin
    refine ⟨by rw [hr₂]; exact hranks, fun k m₂ hm₂ => ?_⟩
    rw [hr₂, hlen]
    rcases hof k m₂ hm₂ with ⟨-, hmaster⟩ | ⟨hne, hm₁⟩
    · rw [hmaster]
      exact Nat.lt_of_lt_of_le (by decide : 0 < 5) hmin
    · obtain ⟨m, hm, -, ⟨-, hlt⟩ | ⟨heq, -⟩⟩ := exists_of_repaired hg text hm₁
      · exact hlt
      · -- the leader to be is another member
        rcases hnone m (mem_values.mpr ⟨k, hm⟩) heq with hguid | hone
        · rw [(hg.members k m hm).1] at hguid
          subst hguid
          rcases hk₀ with rfl | ⟨hno, -⟩
          · exact absurd rfl hne
          · rw [hno] at hm₁
            cases hm₁
        · obtain ⟨m', hm', -⟩ := exists_of_repaired hg text hm₀
          exact absurd ((size_eq_one_iff hm').mp hone k m hm) hne

end Guild

/-! ## Runs -/

namespace GuildWorld

/-- An operation takes away no rank that a member holds. -/
def RemovesVacant (w : GuildWorld) : GuildOp → Prop
  | .removeLowestRank player =>
    ∀ g, w.guild = some g → g.removes (characterGuid player) = true → g.Vacant
  | _ => True

/-- The ranks of the guild, while it exists, are in step. -/
def RanksInStep (w : GuildWorld) : Prop := ∀ g, w.guild = some g → g.RanksInStep

variable {w : GuildWorld}

theorem RanksInStep.onGuild {f : Guild → Guild}
    (hf : ∀ g, w.guild = some g → (f g).RanksInStep) : (w.onGuild f).RanksInStep := by
  intro g' hg'
  obtain ⟨g, hg, rfl⟩ := Option.map_eq_some_iff.mp hg'
  exact hf g hg

theorem RanksInStep.addMember (h : w.RanksInStep) (guid : Guid)
    (c : Candidate) : (w.addMember guid c guildRankNone).RanksInStep := by
  unfold GuildWorld.addMember
  cases hg : w.guild with
  | none => exact h
  | some g =>
    simp only [reduceIte]
    split_ifs with hid
    · exact h
    · cases c.admitted with
      | none => exact h
      | some name =>
        obtain ⟨hranks, hheld⟩ := h g hg
        have hpos := (h g hg).length_pos
        have hlow := Guild.getLowestRankId_toNat (g := g) (h g hg).length_lt.le
        intro g' hg'
        cases hg'
        refine ⟨hranks, fun k m hm => ?_⟩
        rw [find?_set] at hm
        split_ifs at hm with hk
        · cases hm
          change g.getLowestRankId.toNat < g.ranks.length
          omega
        · exact hheld k m hm

theorem RanksInStep.after {g : Guild} {g' : Option Guild}
    (h : ∀ g₁, g' = some g₁ → g₁.RanksInStep) : (w.after g g').RanksInStep := h

theorem RanksInStep.deleteMember (h : w.RanksInStep) (guid : Guid) :
    (w.deleteMember guid).RanksInStep := by
  unfold GuildWorld.deleteMember
  cases hg : w.guild with
  | none => exact h
  | some g =>
    dsimp only
    cases hdel : g.deleteMember guid with
    | none => exact RanksInStep.after fun _ h => (nomatch h)
    | some g' =>
      intro g₁ hg₁
      cases hg₁
      exact (h g hg).deleteMember hdel

theorem ranksInStep_step (h : w.RanksInStep) {op : GuildOp}
    (hok : w.RemovesVacant op) : (w.step op).RanksInStep := by
  cases op with
  | addNewRank player name => exact RanksInStep.onGuild fun g hg => (h g hg).handleAddNewRank _ _
  | removeLowestRank player =>
    exact RanksInStep.onGuild fun g hg => ((h g hg).handleRemoveLowestRank_iff _).mpr (hok g hg)
  | addMember character c => exact h.addMember _ _
  | deleteMember character => exact h.deleteMember _
  | removeMember player name =>
    unfold GuildWorld.step
    cases hg : w.guild with
    | none => exact h
    | some g =>
      refine RanksInStep.after fun g₁ hg₁ => ?_
      obtain heq | ⟨m, -, -, heq⟩ := g.handleRemoveMember_cases (characterGuid player) name
      · rw [heq] at hg₁
        exact Option.some.inj hg₁ ▸ h g hg
      · rw [heq] at hg₁
        exact (h g hg).deleteMember hg₁
  | leaveMember player =>
    unfold GuildWorld.step GuildWorld.handleLeaveMember
    cases hg : w.guild with
    | none => exact h
    | some g =>
      dsimp only
      split_ifs with hleader halone
      · exact h
      · exact RanksInStep.after fun _ h => (nomatch h)
      · exact h.deleteMember _
  | updateMemberRank player name demote =>
    exact RanksInStep.onGuild fun g hg => (h g hg).handleUpdateMemberRank _ _ _
  | setLeader player name => exact RanksInStep.onGuild fun g hg => (h g hg).handleSetLeader _ _
  | otherGuild character guildId =>
    unfold GuildWorld.step GuildWorld.otherGuild
    cases hg : w.guild with
    | none => exact h
    | some g =>
      dsimp only
      split_ifs
      · exact h
      · exact fun g' hg' => h g' (hg.trans hg')

theorem ranksInStep_create {guildIdOf : ℕ → ℕ} {id : ℕ} {leader : BitVec 32} {name : String}
    {text : ℕ → String} (h : create guildIdOf id leader name text = some w) :
    w.RanksInStep := by
  unfold create at h
  split_ifs at h with hfree
  cases h
  intro g hg
  have hlow : guidLopart (characterGuid leader) = leader.toNat := Nat.mod_eq_of_lt leader.isLt
  simp only [GuildWorld.addMember, hlow, hfree, ne_eq, not_true_eq_false, if_false,
    Candidate.admitted] at hg
  cases hg
  have hranks := Guild.rankList_createDefaultGuildRanks
    (rfl : (founded id (characterGuid leader)).ranks = []) text
  refine ⟨hranks, fun k m hm => ?_⟩
  obtain ⟨ranks, heq⟩ := (founded id (characterGuid leader)).createDefaultGuildRanks_eq text
  rw [find?_set, heq] at hm
  split_ifs at hm with hk hnone
  · cases hm
    exact absurd hnone (by decide)
  · cases hm
    exact Nat.lt_of_lt_of_le (by decide : 0 < 5) hranks.min
  · cases hm

/-- **Ranks and members are in step** in every state of a run from a created guild whose removals
take only vacant ranks, and in a loaded guild after its repair exactly when nobody but the leader
to be was one past the last rank. -/
theorem ranksInStep_run_and_validate (guildIdOf : ℕ → ℕ) (id : ℕ) (leader : BitVec 32)
    (name : String) (text : ℕ → String) :
    (∀ (w : GuildWorld) (ops : List GuildOp),
      create guildIdOf id leader name text = some w → Admissible step RemovesVacant w ops →
        ∀ g, (run step w ops).guild = some g → g.RanksInStep) ∧
    ∀ (g g' : Guild) (allowMultipleGuildMaster : Bool), g.Loaded →
      g.validate text allowMultipleGuildMaster = some g' → (g'.RanksInStep ↔ g.NonePastLast) := by
  constructor
  · intro w ops hw hok
    exact run_invariant RanksInStep (fun w op h hok => ranksInStep_step h hok)
      (ranksInStep_create hw) hok
  · intro g g' allow hg h
    exact Guild.ranksInStep_validate_iff hg h

/-- A guild with the five default ranks, whose leader has the first one and whose other member
has the id `rankId`. -/
def loadedGuild (rankId : BitVec 8) : Guild :=
  Guild.createDefaultGuildRanks
    { id := 1, leaderGuid := 1, motd := "", ranks := []
      members := (OrderedMap.empty.set 1 (newMember 1 "Ana" 0)).set 2 (newMember 2 "Bo" rankId)
      purchasedTabs := 0, bankMoney := 0 } fun _ => ""

theorem loaded_loadedGuild (rankId : BitVec 8) : (loadedGuild rankId).Loaded where
  ranks := by unfold Guild.RankRows; decide +kernel +revert
  leader := by decide +kernel +revert
  members := by
    intro k m hm
    have hmem : (k, m) ∈ [(1, newMember 1 "Ana" 0), (2, newMember 2 "Bo" rankId)] :=
      mem_entries.mpr hm
    simp only [List.mem_cons, Prod.mk.injEq, List.not_mem_nil, or_false] at hmem
    rcases hmem with ⟨rfl, rfl⟩ | ⟨rfl, rfl⟩ <;> exact ⟨rfl, by decide⟩

theorem ranksInStep_run_and_validate_sample :
    (∃ w g, create (fun _ => 0) 1 1 "Ana" (fun _ => "") = some w ∧
      (run step w [.addNewRank 1 "", .removeLowestRank 1, .addMember 2 (.inWorld "Bo")]).guild =
        some g ∧ g.RanksInStep) ∧
    ∃ g', (loadedGuild 7).validate (fun _ => "") false = some g' ∧ g'.RanksInStep := by
  refine ⟨⟨_, _, rfl, rfl, ?_⟩, _, rfl, ?_⟩
  · refine (ranksInStep_run_and_validate (fun _ => 0) 1 1 "Ana" fun _ => "").1 _
      [.addNewRank 1 "", .removeLowestRank 1, .addMember 2 (.inWorld "Bo")] rfl ?_ _ rfl
    refine ⟨trivial, fun g hg _ => ?_, trivial, trivial⟩
    cases hg
    decide +kernel
  · exact ((ranksInStep_run_and_validate (fun _ => 0) 1 1 "Ana" fun _ => "").2 (loadedGuild 7) _
      false
      (loaded_loadedGuild 7) rfl).mpr (by decide +kernel)

/-- A created guild gets a sixth rank, a second member joins with it, and the rank is removed:
the member keeps the id `5` of five ranks. A loaded guild with such a member keeps it too. -/
theorem not_ranksInStep_run_and_validate :
    (∃ w g, create (fun _ => 0) 1 1 "Ana" (fun _ => "") = some w ∧
      (run step w [.addNewRank 1 "", .addMember 2 (.inWorld "Bo"), .removeLowestRank 1]).guild =
        some g ∧ ¬ g.RanksInStep) ∧
    (loadedGuild 5).Loaded ∧
    ∃ g', (loadedGuild 5).validate (fun _ => "") false = some g' ∧ ¬ g'.RanksInStep := by
  refine ⟨⟨_, _, rfl, rfl, fun h => ?_⟩, loaded_loadedGuild 5, _, rfl, fun h => ?_⟩
  · exact absurd (h.held 2 _ rfl) (by decide)
  · exact absurd (h.held 2 _ rfl) (by decide)

end GuildWorld

end TeraCore
