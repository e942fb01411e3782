import TeraCore.DungeonFinding.Verdict

/-!
# The proposals of a search are sound

Every proposal a search makes is a group that can play: five different players, one tank, one
healer and three damage dealers in roles they selected, nobody in it with somebody they ignore,
for a dungeon all of its entries want.

## Main results

* `QueueEnv.Created.sound`: the proposal of a full group is sound
* `QueueEnv.findGroups_sound`: every proposal a search makes is
-/

namespace TeraCore

open Commons OrderedMap

/-- **What joining guarantees**: a player's entry has the player only, and the role check of a
group's entry has succeeded. -/
structure RoleChecked (data : OrderedMap Guid LfgQueueData) : Prop where
  solo : ∀ guid d, data.find? guid = some d → isGroup guid = false → d.roles.keys = [guid]
  size_le : ∀ guid d, data.find? guid = some d → isGroup guid = true →
    d.roles.size ≤ maxGroupSize
  roles : ∀ guid d, data.find? guid = some d → isGroup guid = true →
    (checkGroupRoles d.roles).1 = true
  dungeons : ∀ guid d, data.find? guid = some d → isGroup guid = true → d.dungeons.elems ≠ []

theorem roleChecked_iff {data : OrderedMap Guid LfgQueueData} :
    RoleChecked data ↔ ∀ e ∈ data.entries,
      if isGroup e.1 then e.2.roles.size ≤ maxGroupSize ∧ (checkGroupRoles e.2.roles).1 = true ∧
        e.2.dungeons.elems ≠ []
      else e.2.roles.keys = [e.1] := by
  constructor
  · rintro ⟨hsolo, hsize, hroles, hdun⟩ ⟨guid, d⟩ he
    have hd := mem_entries.mp he
    split_ifs with hg
    · exact ⟨hsize guid d hd hg, hroles guid d hd hg, hdun guid d hd hg⟩
    · exact hsolo guid d hd (by simpa using hg)
  · intro h
    have hentry : ∀ guid d, data.find? guid = some d → _ :=
      fun guid d hd => h (guid, d) (mem_entries.mpr hd)
    refine ⟨fun guid d hd hg => ?_, fun guid d hd hg => ?_, fun guid d hd hg => ?_,
      fun guid d hd hg => ?_⟩ <;> have he := hentry guid d hd <;> simp only [hg] at he
    · exact he
    · exact he.1
    · exact he.2.1
    · exact he.2.2

instance (data : OrderedMap Guid LfgQueueData) : Decidable (RoleChecked data) :=
  decidable_of_iff' _ roleChecked_iff

theorem RoleChecked.roles_size_le {data : OrderedMap Guid LfgQueueData} (h : RoleChecked data)
    (guid : Guid) : (data.get guid).roles.size ≤ maxGroupSize := by
  cases hd : data.find? guid with
  | none =>
    rw [OrderedMap.get, hd]
    exact Nat.zero_le _
  | some d =>
    rw [get_of_find? hd]
    cases hg : isGroup guid with
    | true => exact h.size_le guid d hd hg
    | false =>
      rw [← length_keys, h.solo guid d hd hg, List.length_singleton]
      decide

namespace QueueEnv

variable (env : QueueEnv) (data : OrderedMap Guid LfgQueueData)

/-- **A proposal of a group that can play**, made from entries of the queue. -/
structure SoundProposal (p : LfgProposal) : Prop where
  five : p.players.size = maxGroupSize
  union : (playersOf data p.queues).Perm p.players.keys
  tanks : p.players.values.countP (fun player => player.role = playerRoleTank) = lfgTanksNeeded
  healers : p.players.values.countP (fun player => player.role = playerRoleHealer) =
    lfgHealersNeeded
  dps : p.players.values.countP (fun player => player.role = playerRoleDamage) = lfgDpsNeeded
  selected : ∀ guid ∈ p.queues, ∀ player role,
    (data.get guid).roles.find? player = some role →
      role &&& (p.players.get player).role = (p.players.get player).role
  noIgnores : p.queues.Pairwise fun guid guid' =>
    ∀ a ∈ (data.get guid).roles.keys, ∀ b ∈ (data.get guid').roles.keys,
      env.hasIgnore a b = false
  dungeon : ∀ guid ∈ p.queues, p.dungeonId ∈ (data.get guid).dungeons
  lfgGroups : p.queues.countP env.isLfgGroup ≤ 1
  queued : ∀ guid ∈ p.queues, data.contains guid = true ∧ env.getState guid = .queued

variable {env data}

theorem mem_of_allQueued {check : List Guid} (h : env.allQueued check = true) :
    check ≠ [] ∧ ∀ guid ∈ check, env.getState guid = .queued := by
  simpa [allQueued] using h

theorem roles_exact {groles roles : LfgRolesMap} (hfive : groles.size = maxGroupSize)
    (h : checkGroupRoles groles = (true, roles)) :
    roles.size = maxGroupSize ∧
      roles.keys.countP (fun guid => roles.get guid = playerRoleTank) = lfgTanksNeeded ∧
      roles.keys.countP (fun guid => roles.get guid = playerRoleHealer) = lfgHealersNeeded ∧
      roles.keys.countP (fun guid => roles.get guid = playerRoleDamage) = lfgDpsNeeded := by
  obtain ⟨hkeys, hsuits⟩ := checkGroupRoles_sound (by rw [hfive]; decide) h
  obtain ⟨hsingle, -, -, hfit⟩ := hsuits
  rw [removeLeaderFlag_keys, ← hkeys] at hsingle hfit
  have hsize : roles.size = maxGroupSize := by
    rw [← length_keys, hkeys, length_keys, hfive]
  have hsum := countRoles_sum roles.keys roles.get
  have hall : roles.keys.countP (fun guid => SingleRole (roles.get guid)) = maxGroupSize := by
    rw [← hsize, ← length_keys, List.countP_eq_length]
    simpa using hsingle
  rw [hall] at hsum
  obtain ⟨hd, hh, ht⟩ := hfit
  have hneeded : maxGroupSize = lfgTanksNeeded + lfgHealersNeeded + lfgDpsNeeded := rfl
  refine ⟨hsize, ?_, ?_, ?_⟩
  · change (countRoles roles.keys roles.get).tank = _
    omega
  · change (countRoles roles.keys roles.get).healer = _
    omega
  · change (countRoles roles.keys roles.get).damage = _
    omega

theorem role_selected {groles roles : LfgRolesMap} (hsize : groles.size < 2 ^ 8)
    (h : checkGroupRoles groles = (true, roles)) {player : Guid} {role : LfgRoles}
    (hrole : groles.find? player = some role) :
    role &&& roles.get player = roles.get player := by
  obtain ⟨-, hsuits⟩ := checkGroupRoles_sound hsize h
  have hmem : player ∈ (removeLeaderFlag groles).keys := by
    rw [removeLeaderFlag_keys]
    exact mem_keys.mpr ⟨role, hrole⟩
  have hsel := hsuits.selected player hmem
  rw [removeLeaderFlag_get hrole] at hsel
  rw [← hsel]
  ext i
  simp only [BitVec.getElem_and]
  cases role[i] <;> simp

section CreateProposal

variable {id : ℕ} {check : List Guid} {counted : Counted} {roles : LfgRolesMap}
  {dungeons : LfgDungeonSet}

@[simp] theorem createProposal_keys :
    (env.createProposal id check counted roles dungeons).players.keys = roles.keys :=
  keys_mapVals _ _

theorem createProposal_role {player : Guid} (h : player ∈ roles.keys) :
    ((env.createProposal id check counted roles dungeons).players.get player).role =
      roles.get player := by
  obtain ⟨role, hrole⟩ := mem_keys.mp h
  rw [get_of_find? hrole, createProposal]
  simp only [OrderedMap.get, find?_mapVals, hrole]
  rfl

theorem createProposal_countP (role : LfgRoles) :
    (env.createProposal id check counted roles dungeons).players.values.countP
        (fun player => player.role = role) =
      roles.keys.countP fun player => roles.get player = role := by
  rw [values_eq_map_keys, createProposal_keys, List.countP_map]
  refine List.countP_congr fun player hplayer => ?_
  simp only [Function.comp_apply, createProposal_role hplayer]

end CreateProposal

/-- **The players of a new proposal**: those of its entries, in the roles they were given. -/
theorem sound_of_roles {id : ℕ} {check : List Guid} {counted : Counted}
    {groles roles : LfgRolesMap} {dungeons : LfgDungeonSet}
    (hqueued : env.allQueued check = true) (hperm : groles.entries.Perm (rolesOf data check))
    (hfive : groles.size = maxGroupSize) (hroles : checkGroupRoles groles = (true, roles))
    (hign : check.Pairwise fun guid guid' => ∀ a ∈ (data.get guid).roles.keys,
      ∀ b ∈ (data.get guid').roles.keys, env.hasIgnore a b = false)
    (hdun : dungeons.elems ≠ [])
    (hdun' : ∀ guid ∈ check, ∀ dungeon ∈ dungeons, dungeon ∈ (data.get guid).dungeons)
    (hlfg : check.countP env.isLfgGroup ≤ 1) (hdata : ∀ guid ∈ check, data.find? guid ≠ none) :
    env.SoundProposal data (env.createProposal id check counted roles dungeons) := by
  obtain ⟨hsize, htanks, hhealers, hdps⟩ := roles_exact hfive hroles
  have hbyte : groles.size < 2 ^ 8 := by rw [hfive]; decide
  have hkeys := (checkGroupRoles_sound hbyte hroles).1
  constructor
  · rw [← length_keys, createProposal_keys, length_keys, hsize]
  · rw [createProposal_keys, hkeys, ← map_fst_rolesOf]
    exact (hperm.map Prod.fst).symm
  · rw [createProposal_countP, htanks]
  · rw [createProposal_countP, hhealers]
  · rw [createProposal_countP, hdps]
  · rintro guid hguid player role hrole
    have hfind : groles.find? player = some role := by
      rw [← mem_entries, hperm.mem_iff, mem_rolesOf]
      exact ⟨guid, hguid, hrole⟩
    have hmem : player ∈ roles.keys := hkeys ▸ mem_keys.mpr ⟨role, hfind⟩
    rw [createProposal_role hmem]
    exact role_selected hbyte hroles hfind
  · exact hign
  · exact fun guid hguid => hdun' guid hguid _ (env.random.pick_mem id _ hdun)
  · exact hlfg
  · rintro guid hguid
    refine ⟨?_, (mem_of_allQueued hqueued).2 guid hguid⟩
    rw [OrderedMap.contains]
    exact Option.isSome_iff_ne_none.mpr (hdata guid hguid)

/-- **The proposal of a full group is sound**, if the entries are what joining makes them. -/
theorem Created.sound {id : ℕ} {p : LfgProposal} (hdata : RoleChecked data)
    (h : env.Created data id p) : env.SoundProposal data p := by
  obtain ⟨-, hqueued, counted, roles, dungeons, hcheck, heq⟩ := h
  have hsmall : ∀ guid ∈ p.queues, (data.get guid).roles.size ≤ maxGroupSize :=
    fun guid _ => hdata.roles_size_le guid
  have hne := (mem_of_allQueued hqueued).1
  generalize p.queues = check at hqueued hcheck heq hsmall hne
  subst heq
  by_cases hlen : 1 < check.length
  · obtain ⟨counted', hcount⟩ : ∃ c, countEntries env data check {} = .ok c := by
      cases hc : countEntries env data check {} with
      | ok c => exact ⟨c, rfl⟩
      | error guid => simp [checkEntries, hc] at hcheck
    rcases checkEntries_spec hlen hsmall hcount with
      ⟨c, hv, -⟩ | ⟨r, hv, -⟩ | ⟨roles', hv, hroles, hpresent, -, hfull⟩
    · rw [hv] at hcheck; cases hcheck
    · rw [hv] at hcheck; cases hcheck
    · rw [hv] at hcheck
      cases hcheck
      have hmerged := (mergeRoles_size_eq_iff env data check).mpr ⟨hfull.nodup, hfull.noIgnores⟩
      refine sound_of_roles hqueued (entries_mergeRoles_perm env data hmerged)
        (hmerged.trans hfull.players_eq) hroles ?_ hfull.dungeons ?_ hfull.lfgGroups_le hpresent
      · have hpair := hfull.noIgnores
        rw [playersOf, List.pairwise_flatMap] at hpair
        exact hpair.2
      · rintro guid hguid dungeon hdungeon
        exact (mem_commonDungeons hne).mp hdungeon guid hguid
  · -- one entry, whose role check and dungeons were those of a group that joined
    obtain ⟨guid, rfl⟩ : ∃ guid, check = [guid] := by
      cases check with
      | nil => exact absurd rfl hne
      | cons guid rest => cases rest with
        | nil => exact ⟨guid, rfl⟩
        | cons j rest => simp at hlen
    cases hd : data.find? guid with
    | none => simp [checkEntries, countEntries, hd] at hcheck
    | some d =>
      have hget : data.get guid = d := get_of_find? hd
      have hsize : d.roles.size ≤ maxGroupSize := hget ▸ hsmall guid List.mem_cons_self
      rw [checkEntries_single hd hsize] at hcheck
      split_ifs at hcheck with hfive
      · cases hcheck
      · cases hcheck
        rw [ne_eq, not_not] at hfive
        have hgroup : isGroup guid = true := by
          by_contra hsolo
          have hone := hdata.solo guid d hd (by simpa using hsolo)
          rw [← length_keys, hone, List.length_singleton] at hfive
          exact absurd hfive (by decide)
        have hroles := hdata.roles guid d hd hgroup
        refine sound_of_roles hqueued ?_ hfive (Prod.ext hroles rfl) ?_
          (hdata.dungeons guid d hd hgroup) ?_ ?_ ?_
        · simp [rolesOf, hget]
        · simp
        · simp [hget]
        · exact List.countP_le_length
        · simp [hd]

/-! ## Every search -/

/-- **A search makes sound proposals only**, whatever the order of the queue and the answers in
the cache. -/
theorem findGroups_sound (env : QueueEnv) (st : MatchState)
    (hdata : RoleChecked st.queue.queueDataStore) (id : ℕ) (p : LfgProposal)
    (hbefore : st.proposals.find? id = none)
    (hafter : (env.findGroups st).2.proposals.find? id = some p) :
    env.SoundProposal st.queue.queueDataStore p := by
  have hsearch := searched_findGroups env st
  by_cases hid : st.proposals.lastId < id
  · obtain ⟨p', hp', hcreated⟩ :=
      hsearch.created id hid (ProposalPool.le_lastId_of_find? _ hafter)
    rw [hafter] at hp'
    cases hp'
    exact hcreated.sound hdata
  · rw [hsearch.kept id (not_lt.mp hid), hbefore] at hafter
    cases hafter

/-- Random choices that always take the first element and never toss heads. -/
def firstChoice : RandomSource where
  pick _ l := l.headD 0
  pick_mem _ l h := by
    cases l with
    | nil => exact absurd rfl h
    | cons dungeon l => exact List.mem_cons_self
  coin _ _ := false

/-- Everybody is queued, and nobody is in the world to be ignored. -/
def allQueuedEnv : QueueEnv where
  getState _ := .queued
  isLfgGroup _ := false
  findPlayer _ := false
  ignores _ _ := false
  now := 0
  random := firstChoice

/-- A queue that players have joined one after another, each with roles and dungeons. -/
def joinedQueue (entries : List (Guid × LfgRoles × List ℕ)) : MatchState where
  queue := entries.foldl (fun q e =>
    q.addQueueData e.1 0 (OrderedSet.ofList e.2.2) (OrderedMap.empty.set e.1 e.2.1)) {}
  proposals := ProposalPool.empty

/-- A tank, a healer who would also deal damage, and three damage dealers. -/
def fivePlayers : MatchState :=
  joinedQueue [(1, 0x02, [7]), (2, 0x0C, [7, 9]), (3, 0x08, [7]), (4, 0x08, [7]), (5, 0x08, [7, 8])]

theorem findGroups_sound_fivePlayers :
    allQueuedEnv.SoundProposal fivePlayers.queue.queueDataStore
      ((allQueuedEnv.findGroups fivePlayers).2.proposals.store.get 1) :=
  findGroups_sound _ _ (by decide +kernel) 1 _ (by decide +kernel)
    (find?_of_mem_keys (by decide +kernel))

end QueueEnv

end TeraCore
