import TeraCore.DungeonFinding.Search

/-!
# When entries go together

The verdict of a check, read off its conditions: the entries have at most five players, nobody
twice, nobody who ignores another, at most one dungeon group, roles for everyone, and a dungeon
all of them want.

Entries that go together still do when some of them are left out.  For the roles this is not
visible in the search for them, but in what the search decides, `checkGroupRoles_iff`.

## Main results

* `QueueEnv.mergeRoles_size_eq_iff`: when all players are merged
* `QueueEnv.checkEntries_spec`, `QueueEnv.checkEntries_single`: what each verdict means
* `QueueEnv.Compatible.sublist`: entries that go together do when some are left out
-/

namespace TeraCore

open Commons OrderedMap

variable (data : OrderedMap Guid LfgQueueData) (check : List Guid)

/-- The players of the entries of a list, with their roles. -/
def rolesOf : List (Guid × LfgRoles) :=
  check.flatMap fun guid => (data.get guid).roles.entries

/-- The players of the entries of a list. -/
def playersOf : List Guid :=
  check.flatMap fun guid => (data.get guid).roles.keys

section Players

variable {data} {data' : OrderedMap Guid LfgQueueData}

theorem map_fst_rolesOf (data : OrderedMap Guid LfgQueueData) (check : List Guid) :
    (rolesOf data check).map Prod.fst = playersOf data check := List.map_flatMap

variable {check}

theorem mem_playersOf {player : Guid} :
    player ∈ playersOf data check ↔ ∃ guid ∈ check, player ∈ (data.get guid).roles.keys :=
  List.mem_flatMap

theorem mem_rolesOf {player : Guid × LfgRoles} :
    player ∈ rolesOf data check ↔
      ∃ guid ∈ check, (data.get guid).roles.find? player.1 = some player.2 := by
  simp [rolesOf, ← mem_entries]

theorem rolesOf_sublist {check' : List Guid} (h : check.Sublist check') :
    (rolesOf data check).Sublist (rolesOf data check') := by
  induction h with
  | slnil => exact List.Sublist.refl _
  | cons guid _ ih => exact ih.trans (List.sublist_append_right _ _)
  | cons_cons guid _ ih => exact (List.Sublist.refl _).append ih

theorem playersOf_sublist {check' : List Guid} (h : check.Sublist check') :
    (playersOf data check).Sublist (playersOf data check') := by
  rw [← map_fst_rolesOf, ← map_fst_rolesOf]
  exact (rolesOf_sublist h).map Prod.fst

theorem playersOf_congr (h : SameEntries data data') (check : List Guid) :
    playersOf data' check = playersOf data check := by
  simp only [playersOf, h.roles_get]

end Players

namespace QueueEnv

variable (env : QueueEnv) {data : OrderedMap Guid LfgQueueData}

theorem hasIgnore_comm (guid1 guid2 : Guid) :
    env.hasIgnore guid1 guid2 = env.hasIgnore guid2 guid1 := by
  simp only [hasIgnore, Bool.and_comm (env.findPlayer guid1), Bool.or_comm (env.ignores guid1 _)]

/-! ## The players that are merged -/

section Merge

variable {env}

theorem size_mergePlayer_le (m : LfgRolesMap) (player : Guid × LfgRoles) :
    (env.mergePlayer m player).size ≤ m.size + 1 := by
  unfold mergePlayer
  split_ifs
  · exact Nat.le_succ _
  · cases hm : m.find? player.1 with
    | none => exact (perm_set player.2 hm).length_eq.le
    | some r =>
      rw [← length_keys, keys_set_of_mem _ (mem_keys.mpr ⟨r, hm⟩),
        length_keys]
      exact Nat.le_succ _

theorem mergePlayer_of_size (m : LfgRolesMap) (player : Guid × LfgRoles)
    (h : m.size < (env.mergePlayer m player).size) :
    player.1 ∉ m.keys ∧ (∀ other ∈ m.keys, env.hasIgnore player.1 other = false) ∧
      env.mergePlayer m player = m.set player.1 player.2 := by
  unfold mergePlayer at h ⊢
  split_ifs at h ⊢ with hany
  · exact absurd h (lt_irrefl _)
  · have hnew : player.1 ∉ m.keys := by
      intro hmem
      rw [← length_keys, ← length_keys,
        keys_set_of_mem _ hmem] at h
      exact lt_irrefl _ h
    refine ⟨hnew, fun other hother => ?_, rfl⟩
    have hne : other ≠ player.1 := fun heq => hnew (heq ▸ hother)
    simp only [List.any_eq_true, not_exists, not_and, Bool.and_eq_true, decide_eq_true_eq] at hany
    simpa [hne] using hany other hother

variable (env)

theorem foldl_mergePlayer (l : List (Guid × LfgRoles)) : ∀ m : LfgRolesMap,
    (l.foldl env.mergePlayer m).size ≤ m.size + l.length ∧
      ((l.foldl env.mergePlayer m).size = m.size + l.length →
        (∀ p ∈ l, p.1 ∉ m.keys) ∧ (∀ p ∈ l, ∀ other ∈ m.keys, env.hasIgnore p.1 other = false) ∧
        (l.map Prod.fst).Nodup ∧ l.Pairwise (fun p p' => env.hasIgnore p'.1 p.1 = false) ∧
        ∀ guid role, (l.foldl env.mergePlayer m).find? guid = some role ↔
          m.find? guid = some role ∨ (guid, role) ∈ l) := by
  induction l with
  | nil => simp
  | cons p l ih =>
    rintro m
    obtain ⟨hle, heq⟩ := ih (env.mergePlayer m p)
    have hstep : (env.mergePlayer m p).size ≤ m.size + 1 := size_mergePlayer_le m p
    rw [List.foldl_cons, List.length_cons]
    refine ⟨by omega, fun hsize => ?_⟩
    have hgrows : m.size < (env.mergePlayer m p).size := by omega
    obtain ⟨hnew, hign, hset⟩ := mergePlayer_of_size m p hgrows
    obtain ⟨hnew', hign', hnodup, hpair, hfind⟩ := heq (by omega)
    have hkeys : ∀ j, j ∈ (env.mergePlayer m p).keys ↔ j = p.1 ∨ j ∈ m.keys := by
      rintro j
      rw [hset, mem_keys, find?_set]
      by_cases hj : j = p.1
      · simp [hj]
      · simp [hj, mem_keys]
    simp only [hkeys, not_or] at hnew' hign'
    refine ⟨?_, ?_, ?_, ?_, ?_⟩
    · rintro p' hp'
      rcases List.mem_cons.mp hp' with rfl | hp'
      · exact hnew
      · exact (hnew' p' hp').2
    · rintro p' hp' other hother
      rcases List.mem_cons.mp hp' with rfl | hp'
      · exact hign other hother
      · exact hign' p' hp' other (.inr hother)
    · rw [List.map_cons, List.nodup_cons, List.mem_map]
      refine ⟨?_, hnodup⟩
      rintro ⟨p', hp', h⟩
      exact (hnew' p' hp').1 h
    · exact List.pairwise_cons.mpr ⟨fun p' hp' => hign' p' hp' p.1 (.inl rfl), hpair⟩
    · rintro guid role
      rw [hfind, hset, find?_set, List.mem_cons]
      by_cases hg : guid = p.1
      · subst hg
        have hnone : m.find? p.1 ≠ some role := fun h =>
          hnew (mem_keys.mpr ⟨role, h⟩)
        simp only [if_true, Option.some.injEq, hnone, false_or, Prod.ext_iff, true_and]
        exact or_congr_left eq_comm
      · have hne : (guid, role) ≠ p := fun h => hg (congrArg Prod.fst h)
        simp only [if_neg hg, hne, false_or]

theorem foldl_mergePlayer_size (l : List (Guid × LfgRoles)) : ∀ m : LfgRolesMap,
    (∀ p ∈ l, p.1 ∉ m.keys) → (∀ p ∈ l, ∀ other ∈ m.keys, env.hasIgnore p.1 other = false) →
    (l.map Prod.fst).Nodup → l.Pairwise (fun p p' => env.hasIgnore p'.1 p.1 = false) →
      (l.foldl env.mergePlayer m).size = m.size + l.length := by
  induction l with
  | nil => exact fun m _ _ _ _ => rfl
  | cons p l ih =>
    rintro m hnew hign hnodup hpair
    rw [List.map_cons, List.nodup_cons, List.mem_map] at hnodup
    rw [List.pairwise_cons] at hpair
    have hnone : m.find? p.1 = none := by
      cases hm : m.find? p.1 with
      | none => rfl
      | some r => exact absurd (mem_keys.mpr ⟨r, hm⟩) (hnew p List.mem_cons_self)
    have hset : env.mergePlayer m p = m.set p.1 p.2 := by
      unfold mergePlayer
      rw [if_neg]
      simp only [List.any_eq_true, not_exists, not_and, Bool.and_eq_true, Bool.not_eq_true]
      exact fun other hother _ => hign p List.mem_cons_self other hother
    have hsize : (m.set p.1 p.2).size = m.size + 1 := (perm_set p.2 hnone).length_eq
    have hkeys : ∀ j, j ∈ (m.set p.1 p.2).keys → j = p.1 ∨ j ∈ m.keys := by
      rintro j hj
      rw [mem_keys, find?_set] at hj
      by_cases h : j = p.1
      · exact .inl h
      · exact .inr (mem_keys.mpr (by simpa [h] using hj))
    rw [List.foldl_cons, hset, ih _ ?_ ?_ hnodup.2 hpair.2, hsize, List.length_cons]
    · omega
    · rintro p' hp' hmem
      rcases hkeys _ hmem with heq | hmem
      · exact hnodup.1 ⟨p', hp', heq⟩
      · exact hnew p' (List.mem_cons_of_mem _ hp') hmem
    · rintro p' hp' other hother
      rcases hkeys _ hother with rfl | hother
      · exact hpair.1 p' hp'
      · exact hign p' (List.mem_cons_of_mem _ hp') other hother

variable (data)

theorem mergeRoles_eq (check : List Guid) :
    env.mergeRoles data check = (rolesOf data check).foldl env.mergePlayer OrderedMap.empty := by
  simp [mergeRoles, rolesOf, List.foldl_flatMap]

theorem length_rolesOf (check : List Guid) :
    (rolesOf data check).length = (playersOf data check).length := by
  rw [← map_fst_rolesOf, List.length_map]

theorem mergeRoles_size_le (check : List Guid) :
    (env.mergeRoles data check).size ≤ (playersOf data check).length := by
  rw [mergeRoles_eq, ← length_rolesOf]
  refine (foldl_mergePlayer env _ OrderedMap.empty).1.trans ?_
  rw [show (OrderedMap.empty : LfgRolesMap).size = 0 from rfl, Nat.zero_add]

theorem mergeRoles_size_eq_iff (check : List Guid) :
    (env.mergeRoles data check).size = (playersOf data check).length ↔
      (playersOf data check).Nodup ∧
        (playersOf data check).Pairwise fun a b => env.hasIgnore a b = false := by
  have hzero : (OrderedMap.empty : LfgRolesMap).size = 0 := rfl
  rw [mergeRoles_eq, ← length_rolesOf, ← map_fst_rolesOf, List.pairwise_map]
  constructor
  · intro h
    obtain ⟨-, -, hnodup, hpair, -⟩ :=
      (foldl_mergePlayer env (rolesOf data check) OrderedMap.empty).2 (by omega)
    exact ⟨hnodup, hpair.imp fun h => by rwa [hasIgnore_comm]⟩
  · rintro ⟨hnodup, hpair⟩
    rw [foldl_mergePlayer_size env _ _ (by simp) (by simp) hnodup
      (hpair.imp fun h => by rwa [hasIgnore_comm]), hzero, Nat.zero_add]

theorem entries_mergeRoles_perm {check : List Guid}
    (h : (env.mergeRoles data check).size = (playersOf data check).length) :
    (env.mergeRoles data check).entries.Perm (rolesOf data check) := by
  have hnodup := ((mergeRoles_size_eq_iff env data check).mp h).1
  rw [← map_fst_rolesOf] at hnodup
  refine (List.perm_ext_iff_of_nodup ?_ hnodup.of_map).mpr ?_
  · exact (env.mergeRoles data check).sorted.imp fun hlt heq => (heq ▸ hlt).ne rfl
  · rintro ⟨guid, role⟩
    rw [mem_entries]
    rw [mergeRoles_eq, ← length_rolesOf] at h
    have hzero : (OrderedMap.empty : LfgRolesMap).size = 0 := rfl
    obtain ⟨-, -, -, -, hfind⟩ :=
      (foldl_mergePlayer env (rolesOf data check) OrderedMap.empty).2 (by omega)
    rw [mergeRoles_eq, hfind]
    simp

end Merge

/-! ## Roles for the players of a list -/

structure SuitsPlayers (players : List (Guid × LfgRoles)) (given : Guid → LfgRoles) : Prop where
  single : ∀ p ∈ players, SingleRole (given p.1)
  selected : ∀ p ∈ players, p.2 &&& ~~~playerRoleLeader &&& given p.1 = given p.1
  plain : ∀ p ∈ players, p.2 &&& ~~~playerRoleLeader &&& 0xF1 = 0
  fit : (countRoles (players.map Prod.fst) given).Fit

variable {given : Guid → LfgRoles}

theorem countRoles_fit_sublist {guids guids' : List Guid}
    (h : guids.Sublist guids') (hfit : (countRoles guids' given).Fit) :
    (countRoles guids given).Fit :=
  ⟨h.countP_le.trans hfit.damage_le, h.countP_le.trans hfit.healer_le,
    h.countP_le.trans hfit.tank_le⟩

theorem countRoles_perm {guids guids' : List Guid} (given : Guid → LfgRoles)
    (h : guids.Perm guids') : countRoles guids given = countRoles guids' given := by
  simp only [countRoles, h.countP_eq]

theorem SuitsPlayers.sublist {players players' : List (Guid × LfgRoles)}
    (h : players.Sublist players')
    (hs : SuitsPlayers players' given) : SuitsPlayers players given where
  single p hp := hs.single p (h.subset hp)
  selected p hp := hs.selected p (h.subset hp)
  plain p hp := hs.plain p (h.subset hp)
  fit := countRoles_fit_sublist (h.map _) hs.fit

theorem SuitsPlayers.perm {players players' : List (Guid × LfgRoles)} (h : players.Perm players')
    (hs : SuitsPlayers players' given) : SuitsPlayers players given where
  single p hp := hs.single p (h.subset hp)
  selected p hp := hs.selected p (h.subset hp)
  plain p hp := hs.plain p (h.subset hp)
  fit := countRoles_perm given (h.map _) ▸ hs.fit

theorem removeLeaderFlag_get {groles : LfgRolesMap} {guid : Guid} {role : LfgRoles}
    (h : groles.find? guid = some role) :
    (removeLeaderFlag groles).get guid = role &&& ~~~playerRoleLeader :=
  get_of_find? (by simp [removeLeaderFlag, h])

theorem suitsRoles_iff (groles : LfgRolesMap) (given : Guid → LfgRoles) :
    SuitsRoles (removeLeaderFlag groles) given ↔ SuitsPlayers groles.entries given := by
  have hkeys : groles.entries.map Prod.fst = groles.keys := rfl
  constructor
  · rintro ⟨hsingle, hsel, hplain, hfit⟩
    rw [removeLeaderFlag_keys] at hsingle hsel hplain hfit
    have hmem : ∀ p ∈ groles.entries, groles.find? p.1 = some p.2 :=
      fun p hp => mem_entries.mp hp
    have hkey : ∀ p ∈ groles.entries, p.1 ∈ groles.keys :=
      fun p hp => List.mem_map_of_mem hp
    refine ⟨fun p hp => hsingle _ (hkey p hp), fun p hp => ?_, fun p hp => ?_, hkeys ▸ hfit⟩
    · rw [← removeLeaderFlag_get (hmem p hp)]
      exact hsel _ (hkey p hp)
    · rw [← removeLeaderFlag_get (hmem p hp)]
      exact hplain _ (hkey p hp)
  · rintro ⟨hsingle, hsel, hplain, hfit⟩
    have hentry : ∀ guid ∈ (removeLeaderFlag groles).keys,
        ∃ role, (guid, role) ∈ groles.entries ∧
          (removeLeaderFlag groles).get guid = role &&& ~~~playerRoleLeader := by
      rintro guid hguid
      rw [removeLeaderFlag_keys] at hguid
      obtain ⟨role, hrole⟩ := mem_keys.mp hguid
      exact ⟨role, mem_entries.mpr hrole, removeLeaderFlag_get hrole⟩
    refine ⟨fun guid hguid => ?_, fun guid hguid => ?_, fun guid hguid => ?_, ?_⟩
    · obtain ⟨role, hmem, -⟩ := hentry guid hguid
      exact hsingle _ hmem
    · obtain ⟨role, hmem, heq⟩ := hentry guid hguid
      rw [heq]
      exact hsel _ hmem
    · obtain ⟨role, hmem, heq⟩ := hentry guid hguid
      rw [heq]
      exact hplain _ hmem
    · rw [removeLeaderFlag_keys]
      exact hfit

theorem checkGroupRoles_mergeRoles_iff {check : List Guid}
    (h : (env.mergeRoles data check).size = (playersOf data check).length)
    (hsize : (playersOf data check).length < 2 ^ 8) :
    (checkGroupRoles (env.mergeRoles data check)).1 = true ↔
      playersOf data check ≠ [] ∧ ∃ given, SuitsPlayers (rolesOf data check) given := by
  rw [checkGroupRoles_iff (h ▸ hsize), h, Ne, List.length_eq_zero_iff]
  simp only [suitsRoles_iff]
  refine and_congr_right fun _ => exists_congr fun given => ⟨?_, ?_⟩
  · exact SuitsPlayers.perm (entries_mergeRoles_perm env data h).symm
  · exact SuitsPlayers.perm (entries_mergeRoles_perm env data h)

/-! ## What is counted -/

section Count

variable {env}

/-- **The walk over the entries** counts a part of the list: all of it, or up to a second
dungeon group or a sixth player. -/
theorem countEntries_ok {check : List Guid} {c c' : Counted}
    (hsmall : ∀ guid ∈ check, (data.get guid).roles.size ≤ maxGroupSize)
    (hc : c.numPlayers ≤ 2 * maxGroupSize) (h : countEntries env data check c = .ok c') :
    ∃ pre post, check = pre ++ post ∧ (∀ guid ∈ pre, data.find? guid ≠ none) ∧
      c' = pre.foldl (fun c guid => c.add env guid (data.get guid).roles) c ∧
      c'.numPlayers = c.numPlayers + (playersOf data pre).length ∧
      c'.numLfgGroups = c.numLfgGroups + pre.countP env.isLfgGroup ∧
      (post = [] ∨ 1 < c'.numLfgGroups ∨ maxGroupSize < c'.numPlayers) := by
  induction check generalizing c with
  | nil =>
    cases h
    exact ⟨[], [], rfl, by simp, rfl, by simp [playersOf], by simp, .inl rfl⟩
  | cons guid check ih =>
    simp only [countEntries] at h
    split_ifs at h with hgo
    · cases hd : data.find? guid with
      | none => rw [hd] at h; cases h
      | some d =>
        rw [hd] at h
        have hroles : d.roles = (data.get guid).roles := by rw [get_of_find? hd]
        have hsize := hsmall guid List.mem_cons_self
        have hplayers : (c.add env guid d.roles).numPlayers =
            c.numPlayers + (data.get guid).roles.size := by
          simp only [Counted.add, hroles]
          exact Nat.mod_eq_of_lt (by simp only [maxGroupSize] at hgo hsize; omega)
        have hgroups : (c.add env guid d.roles).numLfgGroups =
            c.numLfgGroups + if env.isLfgGroup guid then 1 else 0 := by
          simp only [Counted.add]
          split_ifs <;> rfl
        obtain ⟨pre, post, rfl, hpre, hfold, hn, hl, hend⟩ :=
          ih (fun j hj => hsmall j (List.mem_cons_of_mem _ hj)) (by omega) h
        refine ⟨guid :: pre, post, rfl, ?_, ?_, ?_, ?_, hend⟩
        · rintro j hj
          rcases List.mem_cons.mp hj with rfl | hj
          · rw [hd]
            exact Option.some_ne_none d
          · exact hpre j hj
        · rw [hfold, hroles]
          rfl
        · rw [hn, hplayers, playersOf, playersOf, List.flatMap_cons, List.length_append,
            length_keys, Nat.add_assoc]
        · rw [hl, hgroups, List.countP_cons]
          omega
    · cases h
      refine ⟨[], guid :: check, rfl, by simp, rfl, by simp [playersOf], by simp, .inr ?_⟩
      rcases not_and_or.mp hgo with hgo | hgo
      · exact .inl (by omega)
      · exact .inr (by omega)

theorem exists_countEntries {check : List Guid} (h : ∀ guid ∈ check, data.find? guid ≠ none)
    (c : Counted) : ∃ c', countEntries env data check c = .ok c' := by
  induction check generalizing c with
  | nil => exact ⟨c, rfl⟩
  | cons guid check ih =>
    simp only [countEntries]
    split_ifs
    · cases hd : data.find? guid with
      | none => exact absurd hd (h guid List.mem_cons_self)
      | some d => exact ih (fun j hj => h j (List.mem_cons_of_mem _ hj)) _
    · exact ⟨c, rfl⟩

theorem mem_commonDungeons {check : List Guid} (h : check ≠ []) {dungeon : ℕ} :
    dungeon ∈ commonDungeons data check ↔ ∀ guid ∈ check, dungeon ∈ (data.get guid).dungeons := by
  cases check with
  | nil => exact absurd rfl h
  | cons guid check =>
    simp only [commonDungeons, List.forall_mem_cons]
    generalize (data.get guid).dungeons = dungeons
    clear h
    induction check generalizing dungeons with
    | nil => simp
    | cons j check ih =>
      rw [List.foldl_cons, ih, OrderedSet.mem_inter, List.forall_mem_cons, and_assoc]

end Count

/-! ## The verdicts -/

variable (data) in
structure Compatible (check : List Guid) : Prop where
  players_le : (playersOf data check).length ≤ maxGroupSize
  nodup : (playersOf data check).Nodup
  noIgnores : (playersOf data check).Pairwise fun a b => env.hasIgnore a b = false
  lfgGroups_le : check.countP env.isLfgGroup ≤ 1
  roles : (checkGroupRoles (env.mergeRoles data check)).1 = true
  dungeons : (commonDungeons data check).elems ≠ []

variable (data) in
/-- **A full group**: entries that go together, of five players. -/
structure FullGroup (check : List Guid) : Prop extends Compatible env data check where
  players_eq : (playersOf data check).length = maxGroupSize

section Verdicts

variable {env}

/-- **What each verdict means**, for a list of at least two entries. -/
theorem checkEntries_spec {check : List Guid} (hlen : 1 < check.length)
    (hsmall : ∀ guid ∈ check, (data.get guid).roles.size ≤ maxGroupSize) {counted : Counted}
    (hcount : countEntries env data check {} = .ok counted) :
    (∃ c, checkEntries env data check = .ok (.incompatible c) ∧ c.isCompatible = false ∧
        c ≠ .pending ∧ ¬Compatible env data check) ∨
      (∃ roles, checkEntries env data check = .ok (.lessPlayers roles) ∧
        checkGroupRoles (env.mergeRoles data check) = (true, roles) ∧
        Compatible env data check ∧ (playersOf data check).length < maxGroupSize) ∨
      (∃ roles, checkEntries env data check =
          .ok (.full counted roles (commonDungeons data check)) ∧
        checkGroupRoles (env.mergeRoles data check) = (true, roles) ∧
        (∀ guid ∈ check, data.find? guid ≠ none) ∧
        counted = check.foldl (fun c guid => c.add env guid (data.get guid).roles) {} ∧
        FullGroup env data check) := by
  obtain ⟨pre, post, rfl, hpre, hfold, hn, hl, hend⟩ :=
    countEntries_ok hsmall (Nat.zero_le _) hcount
  simp only [Nat.zero_add] at hn hl
  have hsub : pre.Sublist (pre ++ post) := List.sublist_append_left _ _
  have hsingle : ¬((pre ++ post).length = 1 ∧ counted.numPlayers ≠ maxGroupSize) :=
    fun h => absurd h.1 (by omega)
  by_cases hgroups : 1 < counted.numLfgGroups
  · refine .inl ⟨.multipleLfgGroups, ?_, rfl, by decide, fun hcomp => ?_⟩
    · simp only [checkEntries, hcount, if_neg hsingle, if_pos hgroups]
    · have := hsub.countP_le (p := env.isLfgGroup)
      have := hcomp.lfgGroups_le
      omega
  by_cases hmany : maxGroupSize < counted.numPlayers
  · refine .inl ⟨.tooMuchPlayers, ?_, rfl, by decide, fun hcomp => ?_⟩
    · simp only [checkEntries, hcount, if_neg hsingle, if_neg hgroups, if_pos hmany]
    · have hle : (playersOf data pre).length ≤ (playersOf data (pre ++ post)).length :=
        (playersOf_sublist hsub).length_le
      have := hcomp.players_le
      omega
  -- from here on the whole list was counted
  obtain rfl : post = [] := by
    rcases hend with h | h | h
    · exact h
    · exact absurd h hgroups
    · exact absurd h hmany
  rw [List.append_nil] at *
  have hn' : (playersOf data pre).length ≤ maxGroupSize := hn ▸ not_lt.mp hmany
  have hmod : (counted.numPlayers + 2 ^ 8 - (env.mergeRoles data pre).size % 2 ^ 8) % 2 ^ 8 ≠ 0 ↔
      (env.mergeRoles data pre).size ≠ (playersOf data pre).length := by
    have hle := mergeRoles_size_le env data pre
    simp only [maxGroupSize] at hn'
    omega
  by_cases hign : (env.mergeRoles data pre).size ≠ (playersOf data pre).length
  · refine .inl ⟨.hasIgnores, ?_, rfl, by decide, fun hcomp => ?_⟩
    · simp only [checkEntries, hcount, if_neg hsingle, if_neg hgroups, if_neg hmany, if_pos hlen,
        if_pos (hmod.mpr hign)]
    · exact hign ((mergeRoles_size_eq_iff env data pre).mpr ⟨hcomp.nodup, hcomp.noIgnores⟩)
  cases hg : checkGroupRoles (env.mergeRoles data pre) with
  | mk found roles =>
    cases found with
    | false =>
      refine .inl ⟨.noRoles, ?_, rfl, by decide, fun hcomp => ?_⟩
      · simp only [checkEntries, hcount, if_neg hsingle, if_neg hgroups, if_neg hmany,
          if_pos hlen, if_neg (hmod.not.mpr hign), hg]
      · have := hcomp.roles
        rw [hg] at this
        cases this
    | true =>
      by_cases hdun : (commonDungeons data pre).elems = []
      · refine .inl ⟨.noDungeons, ?_, rfl, by decide, fun hcomp => hcomp.dungeons hdun⟩
        simp only [checkEntries, hcount, if_neg hsingle, if_neg hgroups, if_neg hmany,
          if_pos hlen, if_neg (hmod.not.mpr hign), hg, if_pos hdun]
      · obtain ⟨hnodup, hpair⟩ :=
          (mergeRoles_size_eq_iff env data pre).mp (not_not.mp hign)
        have hcomp : Compatible env data pre :=
          ⟨hn', hnodup, hpair, by omega, by rw [hg], hdun⟩
        right
        by_cases hfull : counted.numPlayers ≠ maxGroupSize
        · refine .inl ⟨roles, ?_, rfl, hcomp, by omega⟩
          simp only [checkEntries, hcount, if_neg hsingle, if_neg hgroups, if_neg hmany,
            if_pos hlen, if_neg (hmod.not.mpr hign), hg, if_neg hdun, if_pos hfull]
        · refine .inr ⟨roles, ?_, rfl, hpre, hfold, hcomp, by omega⟩
          simp only [checkEntries, hcount, if_neg hsingle, if_neg hgroups, if_neg hmany,
            if_pos hlen, if_neg (hmod.not.mpr hign), hg, if_neg hdun, if_neg hfull]

theorem checkEntries_single {guid : Guid} {d : LfgQueueData} (hd : data.find? guid = some d)
    (hsize : d.roles.size ≤ maxGroupSize) :
    checkEntries env data [guid] =
      if d.roles.size ≠ maxGroupSize then .ok (.lessPlayers (checkGroupRoles d.roles).2)
      else .ok (.full (({} : Counted).add env guid d.roles) (checkGroupRoles d.roles).2
        d.dungeons) := by
  have hget : data.get guid = d := get_of_find? hd
  have hcount : countEntries env data [guid] {} = .ok (({} : Counted).add env guid d.roles) := by
    simp [countEntries, hd]
  have hplayers : (({} : Counted).add env guid d.roles).numPlayers = d.roles.size := by
    simp only [Counted.add, Nat.zero_add]
    exact Nat.mod_eq_of_lt (hsize.trans_lt (by decide))
  have hgroups : ¬1 < (({} : Counted).add env guid d.roles).numLfgGroups := by
    simp only [Counted.add]
    split_ifs <;> decide
  simp only [checkEntries, hcount, hplayers, if_neg hgroups, if_neg (not_lt.mpr hsize),
    List.length_singleton, true_and, List.headD_cons, hget, lt_irrefl, if_false]

end Verdicts

/-- **Entries that go together do when some of them are left out.** -/
theorem Compatible.sublist {check check' : List Guid} (h : check'.Sublist check)
    (hne : check' ≠ []) (hplayers : playersOf data check' ≠ []) (hc : Compatible env data check) :
    Compatible env data check' := by
  have hsub : (playersOf data check').Sublist (playersOf data check) := playersOf_sublist h
  have hle : (playersOf data check').length ≤ maxGroupSize := hsub.length_le.trans hc.players_le
  have hnodup := hc.nodup.sublist hsub
  have hpair := hc.noIgnores.sublist hsub
  refine ⟨hle, hnodup, hpair, h.countP_le.trans hc.lfgGroups_le, ?_, ?_⟩
  · have hsize := (mergeRoles_size_eq_iff env data check).mpr ⟨hc.nodup, hc.noIgnores⟩
    have hsize' := (mergeRoles_size_eq_iff env data check').mpr ⟨hnodup, hpair⟩
    have hbyte : maxGroupSize < 2 ^ 8 := by decide
    obtain ⟨-, given, hsuits⟩ := (checkGroupRoles_mergeRoles_iff env hsize
      (hc.players_le.trans_lt hbyte)).mp hc.roles
    refine (checkGroupRoles_mergeRoles_iff env hsize' (hle.trans_lt hbyte)).mpr
      ⟨hplayers, given, hsuits.sublist (rolesOf_sublist h)⟩
  · have hne' : check ≠ [] := fun heq => hne (List.sublist_nil.mp (heq ▸ h))
    obtain ⟨dungeon, hmem⟩ := List.exists_mem_of_ne_nil _ hc.dungeons
    refine List.ne_nil_of_mem (a := dungeon) ?_
    rw [OrderedSet.mem_elems, mem_commonDungeons hne]
    rw [OrderedSet.mem_elems, mem_commonDungeons hne'] at hmem
    exact fun guid hguid => hmem guid (h.subset hguid)

end QueueEnv

end TeraCore
