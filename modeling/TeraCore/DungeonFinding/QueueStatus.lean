import TeraCore.Commons.Run
import TeraCore.DungeonFinding.Soundness

/-!
# What the queue tells its entries

An entry keeps the best combination it is part of, and how many tanks, healers and damage dealers
that one still needs.  The combination is a key of the cache: the decimal guids of its entries with
bars between.  Whether an entry is part of a combination is asked by looking for its decimal guid
anywhere in the key, so that a guid takes a combination for its own whose guids only have it as a
part of their digits.

## Main results

* `names_concatenateGuids_iff`: the guids of a key are those between its bars
* `LFGQueue.Combination.roles_unique`: a combination has one assignment of roles
* `MatchState.statusRight_run`: the status is right in every run that meets the condition
-/

namespace TeraCore

open Commons OrderedMap OrderedSet

/-! ## The status -/

def LfgKey.names (key : LfgKey) (guid : Guid) : Prop := guidString guid ∈ key.splitOn '|'

instance (key : LfgKey) (guid : Guid) : Decidable (key.names guid) :=
  inferInstanceAs (Decidable (_ ∈ _))

/-- The players who have a role. -/
def LfgRolesMap.having (roles : LfgRolesMap) (role : LfgRoles) : ℕ :=
  roles.values.countP fun selected => selected &&& role ≠ 0

namespace LFGQueue

/-- **What an entry is told is about the right combination**: one that is cached, of entries that
are queued, with the entry itself; and the roles told are those a group needs without the players
of the combination. -/
def StatusRight (q : LFGQueue) (guid : Guid) (data : LfgQueueData) : Prop :=
  ∃ check stored, data.bestCompatible = concatenateGuids check ∧ guid ∈ check ∧
    (∀ j ∈ check, q.queueDataStore.contains j = true) ∧
    q.compatibleMapStore.find? data.bestCompatible = some stored ∧
    data.tanks.toNat + stored.roles.having playerRoleTank = lfgTanksNeeded ∧
    data.healers.toNat + stored.roles.having playerRoleHealer = lfgHealersNeeded ∧
    data.dps.toNat + stored.roles.having playerRoleDamage = lfgDpsNeeded

/-- Every entry that is told something is told the right thing. -/
def AllStatusRight (q : LFGQueue) : Prop :=
  ∀ guid data, q.queueDataStore.find? guid = some data → data.bestCompatible ≠ [] →
    q.StatusRight guid data

end LFGQueue

/-- The operations of the queue. -/
inductive QueueOp where
  | addQueueData (guid : Guid) (joinTime : ℕ) (dungeons : LfgDungeonSet) (rolesMap : LfgRolesMap)
  | addToQueue (guid : Guid)
  | removeFromQueue (guid : Guid)
  | getJoinTime (guid : Guid) (now : ℕ)
  | updateQueueTimers
  | findGroups (env : QueueEnv)

namespace MatchState

def step (st : MatchState) : QueueOp → MatchState
  | .addQueueData guid joinTime dungeons rolesMap =>
    st.update (·.addQueueData guid joinTime dungeons rolesMap)
  | .addToQueue guid => st.update (·.addToQueue guid)
  | .removeFromQueue guid => st.update (·.removeFromQueue guid)
  | .getJoinTime guid now => st.update (·.getJoinTime guid now)
  | .updateQueueTimers => st.update (·.updateQueueTimers)
  | .findGroups env => (env.findGroups st).2

/-- Every cached combination that needs more players and has the decimal guid in its key is one of
the guid itself. -/
def Unmistakable (q : LFGQueue) (guid : Guid) : Prop :=
  ∀ e ∈ q.compatibleMapStore.entries, e.2.compatibility = .withLessPlayers →
    e.1.mentions guid = true → e.1.names guid

instance (q : LFGQueue) (guid : Guid) : Decidable (Unmistakable q guid) :=
  inferInstanceAs (Decidable (∀ e ∈ q.compatibleMapStore.entries, _))

/-- **The condition on an operation**: players join with roles a group can be made of, an entry that
is there keeps its roles, and an entry that looks for its best combination does not find its guid in
the digits of others. -/
def StatusKept (st : MatchState) : QueueOp → Prop
  | .addQueueData guid _ _ rolesMap =>
    (rolesMap.size ≤ maxGroupSize ∧ (checkGroupRoles rolesMap).1 = true) ∧
      ∀ data ∈ st.queue.queueDataStore.find? guid, data.roles = rolesMap
  | .removeFromQueue guid => ∀ e ∈ st.queue.queueDataStore.entries, e.1 ≠ guid →
      e.2.bestCompatible.mentions guid = true →
        Unmistakable (st.queue.removeFromCompatibles guid) e.1
  | .updateQueueTimers => ∀ e ∈ st.queue.queueDataStore.entries, e.2.bestCompatible = [] →
      Unmistakable st.queue e.1
  | .addToQueue .. | .getJoinTime .. | .findGroups .. => True

instance (st : MatchState) (op : QueueOp) : Decidable (st.StatusKept op) := by
  cases op <;> dsimp only [StatusKept] <;> infer_instance

end MatchState

/-! ## Numbers in keys -/

theorem joinGuids_eq_intercalate (guids : List Guid) :
    joinGuids guids = ['|'].intercalate (guids.map guidString) := by
  induction guids with
  | nil => rfl
  | cons guid guids ih =>
    cases guids with
    | nil => simp [joinGuids]
    | cons j guids =>
      rw [joinGuids_cons_cons, ih]
      simp [List.intercalate]

theorem names_concatenateGuids_iff {guid : Guid} {check : List Guid} (hne : check ≠ []) :
    (concatenateGuids check).names guid ↔ guid ∈ check := by
  have hkeys : (OrderedSet.ofList check).elems ≠ [] := by
    obtain ⟨j, hj⟩ := List.exists_mem_of_ne_nil _ hne
    exact List.ne_nil_of_mem (mem_elems.mpr (mem_ofList.mpr hj))
  rw [LfgKey.names, concatenateGuids, joinGuids_eq_intercalate, List.splitOn_intercalate]
  · rw [List.mem_map_of_injective guidString_injective, mem_elems, mem_ofList]
  · simpa using fun j _ => bar_notMem_guidString j
  · simpa using hkeys

/-! ## The roles that are still needed -/

/-- One if the role is the one, else none. -/
def roleCount (role wanted : LfgRoles) : ℕ := if role &&& wanted ≠ 0 then 1 else 0

theorem countP_role_cons (role : LfgRoles) (roles : List LfgRoles) (wanted : LfgRoles) :
    (role :: roles).countP (fun selected => selected &&& wanted ≠ 0) =
      roles.countP (fun selected => selected &&& wanted ≠ 0) + roleCount role wanted := by
  rw [List.countP_cons, roleCount]
  simp

namespace LfgQueueData

theorem take_spec (data : LfgQueueData) {role : LfgRoles} (hsingle : SingleRole role)
    (htanks : roleCount role playerRoleTank ≤ data.tanks.toNat)
    (hhealers : roleCount role playerRoleHealer ≤ data.healers.toNat)
    (hdps : roleCount role playerRoleDamage ≤ data.dps.toNat) :
    (data.take role).tanks.toNat + roleCount role playerRoleTank = data.tanks.toNat ∧
      (data.take role).healers.toNat + roleCount role playerRoleHealer = data.healers.toNat ∧
      (data.take role).dps.toNat + roleCount role playerRoleDamage = data.dps.toNat ∧
      (data.take role).bestCompatible = data.bestCompatible := by
  have hsub : ∀ n : BitVec 8, 1 ≤ n.toNat → (n - 1).toNat + 1 = n.toNat := by
    intro n hn
    bv_omega
  rcases hsingle with rfl | rfl | rfl
  · exact ⟨hsub _ htanks, rfl, rfl, rfl⟩
  · exact ⟨rfl, hsub _ hhealers, rfl, rfl⟩
  · exact ⟨rfl, rfl, hsub _ hdps, rfl⟩

theorem foldl_take {roles : List LfgRoles} (hsingle : ∀ role ∈ roles, SingleRole role)
    {data : LfgQueueData}
    (htanks : roles.countP (fun role => role &&& playerRoleTank ≠ 0) ≤ data.tanks.toNat)
    (hhealers : roles.countP (fun role => role &&& playerRoleHealer ≠ 0) ≤ data.healers.toNat)
    (hdps : roles.countP (fun role => role &&& playerRoleDamage ≠ 0) ≤ data.dps.toNat) :
    (roles.foldl take data).tanks.toNat +
        roles.countP (fun role => role &&& playerRoleTank ≠ 0) = data.tanks.toNat ∧
      (roles.foldl take data).healers.toNat +
        roles.countP (fun role => role &&& playerRoleHealer ≠ 0) = data.healers.toNat ∧
      (roles.foldl take data).dps.toNat +
        roles.countP (fun role => role &&& playerRoleDamage ≠ 0) = data.dps.toNat ∧
      (roles.foldl take data).bestCompatible = data.bestCompatible := by
  induction roles generalizing data with
  | nil => exact ⟨rfl, rfl, rfl, rfl⟩
  | cons role roles ih =>
    rw [countP_role_cons] at htanks hhealers hdps ⊢
    obtain ⟨ht, hh, hd, hb⟩ := take_spec data (hsingle role List.mem_cons_self) (by omega)
      (by omega) (by omega)
    obtain ⟨ht', hh', hd', hb'⟩ := @ih (fun r hr => hsingle r (List.mem_cons_of_mem _ hr))
      (data.take role) (by omega) (by omega) (by omega)
    rw [List.foldl_cons, countP_role_cons, countP_role_cons]
    exact ⟨by omega, by omega, by omega, hb'.trans hb⟩

end LfgQueueData

namespace LFGQueue

/-- **The roles of a combination**: those given to the players of its entries, who can form a group;
there may be no players. -/
def Combination (data : OrderedMap Guid LfgQueueData) (check : List Guid) (roles : LfgRolesMap) :
    Prop :=
  check ≠ [] ∧ (∀ guid ∈ check, data.contains guid = true) ∧
    ∃ merged : LfgRolesMap,
      (∀ player role, merged.find? player = some role ↔ (player, role) ∈ rolesOf data check) ∧
      (checkGroupRoles merged).2 = roles ∧
      merged.size ≤ maxGroupSize ∧ (merged.size = 0 ∨ (checkGroupRoles merged).1 = true)

namespace Combination

variable {data data' : OrderedMap Guid LfgQueueData} {check check' : List Guid}
  {roles roles' : LfgRolesMap}

theorem roles_unique (h : Combination data check roles) (h' : Combination data check' roles')
    (hkey : concatenateGuids check = concatenateGuids check') : roles = roles' := by
  obtain ⟨-, -, merged, hmerged, rfl, -, -⟩ := h
  obtain ⟨-, -, merged', hmerged', rfl, -, -⟩ := h'
  have hmem := concatenateGuids_eq_iff.mp hkey
  have heq : merged = merged' := ext_find? fun player => by
    refine Option.ext fun role => ?_
    rw [hmerged, hmerged', mem_rolesOf, mem_rolesOf]
    simp only [hmem]
  rw [heq]

theorem congr (h : Combination data check roles)
    (hdata : ∀ guid ∈ check, data'.contains guid = true ∧
      (data'.get guid).roles = (data.get guid).roles) : Combination data' check roles := by
  obtain ⟨hne, -, merged, hmerged, hroles, hsize, hcheck⟩ := h
  refine ⟨hne, fun guid hguid => (hdata guid hguid).1, merged, fun player role => ?_, hroles, hsize,
    hcheck⟩
  rw [hmerged, mem_rolesOf, mem_rolesOf]
  constructor
  · rintro ⟨guid, hguid, hfind⟩
    exact ⟨guid, hguid, by rwa [(hdata guid hguid).2]⟩
  · rintro ⟨guid, hguid, hfind⟩
    exact ⟨guid, hguid, by rwa [← (hdata guid hguid).2]⟩

theorem fit (h : Combination data check roles) :
    (∀ role ∈ roles.values, SingleRole role) ∧ roles.having playerRoleTank ≤ lfgTanksNeeded ∧
      roles.having playerRoleHealer ≤ lfgHealersNeeded ∧
      roles.having playerRoleDamage ≤ lfgDpsNeeded := by
  obtain ⟨-, -, merged, -, rfl, hsize, hempty | hfound⟩ := h
  · have hentries : merged.entries = [] := List.length_eq_zero_iff.mp hempty
    have hvalues : (checkGroupRoles merged).2.values = [] := by
      rw [checkGroupRoles, checkSelectedRoles, if_pos (by simpa using hempty)]
      simp [removeLeaderFlag, OrderedMap.values, OrderedMap.mapVals, hentries]
    simp [LfgRolesMap.having, hvalues]
  · obtain ⟨hkeys, hsuits⟩ := checkGroupRoles_sound (hsize.trans_lt (by decide))
      (Prod.ext hfound rfl)
    have hsingle := hsuits.single
    have hfit := hsuits.fit
    rw [removeLeaderFlag_keys, ← hkeys] at hsingle hfit
    have hvalues : ∀ role ∈ (checkGroupRoles merged).2.values, SingleRole role := by
      rw [values_eq_map_keys]
      simpa using hsingle
    -- A single role is a role exactly if it has it.
    have hcount : ∀ wanted, SingleRole wanted → (checkGroupRoles merged).2.having wanted =
        (checkGroupRoles merged).2.keys.countP
          fun player => (checkGroupRoles merged).2.get player = wanted := by
      intro wanted hwanted
      rw [LfgRolesMap.having, values_eq_map_keys, List.countP_map]
      refine List.countP_congr fun player hplayer => ?_
      have hplayer' := hsingle player hplayer
      simp only [Function.comp_apply, decide_eq_true_eq]
      rcases hplayer' with heq | heq | heq <;> rcases hwanted with rfl | rfl | rfl <;>
        rw [heq] <;> decide
    refine ⟨hvalues, ?_, ?_, ?_⟩
    · rw [hcount _ (.inl rfl)]
      exact hfit.tank_le
    · rw [hcount _ (.inr (.inl rfl))]
      exact hfit.healer_le
    · rw [hcount _ (.inr (.inr rfl))]
      exact hfit.damage_le

end Combination

/-! ## The invariant -/

/-- The roles told to an entry are those that the roles of a combination leave. -/
def Leaves (roles : LfgRolesMap) (d : LfgQueueData) : Prop :=
  d.tanks.toNat + roles.having playerRoleTank = lfgTanksNeeded ∧
    d.healers.toNat + roles.having playerRoleHealer = lfgHealersNeeded ∧
    d.dps.toNat + roles.having playerRoleDamage = lfgDpsNeeded

variable (data : OrderedMap Guid LfgQueueData) (cache : OrderedMap LfgKey LfgCompatibilityData)

/-- An entry is told about a cached combination it is part of, or nothing. -/
def Told (guid : Guid) (d : LfgQueueData) : Prop :=
  d.bestCompatible = [] ∨ ∃ check stored, d.bestCompatible = concatenateGuids check ∧
    guid ∈ check ∧ cache.find? d.bestCompatible = some stored ∧
    Combination data check stored.roles ∧ Leaves stored.roles d

/-- Every cached answer that more players are needed is that of a combination. -/
def Cached : Prop :=
  ∀ key stored, cache.find? key = some stored → stored.compatibility = .withLessPlayers →
    ∃ check, key = concatenateGuids check ∧ Combination data check stored.roles

/-- Roles that a group can be made of, or none. -/
def Playable (roles : LfgRolesMap) : Prop :=
  roles.size ≤ maxGroupSize ∧ (roles.size = 0 ∨ (checkGroupRoles roles).1 = true)

/-- **The invariant.** -/
structure StatusInv (q : LFGQueue) : Prop where
  roles : ∀ guid d, q.queueDataStore.find? guid = some d → Playable d.roles
  new : ∀ guid ∈ q.newToQueueStore, q.queueDataStore.contains guid = true
  current : ∀ guid ∈ q.currentQueueStore, q.queueDataStore.contains guid = true
  cached : Cached q.queueDataStore q.compatibleMapStore
  told : ∀ guid d, q.queueDataStore.find? guid = some d →
    Told q.queueDataStore q.compatibleMapStore guid d

variable {q : LFGQueue} {data} {data' : OrderedMap Guid LfgQueueData} {cache}
  {cache' : OrderedMap LfgKey LfgCompatibilityData} {guid : Guid} {d : LfgQueueData}
  {check : List Guid} {roles : LfgRolesMap}

theorem StatusInv.allStatusRight (h : q.StatusInv) : q.AllStatusRight := by
  intro guid d hd hbest
  rcases h.told guid d hd with hnone | ⟨check, stored, hkey, hguid, hstored, hcomb, hleaves⟩
  · exact absurd hnone hbest
  · exact ⟨check, stored, hkey, hguid, hcomb.2.1, hstored, hleaves⟩

theorem Told.congr (h : Told data cache guid d)
    (hdata : ∀ check, (concatenateGuids check) = d.bestCompatible → ∀ j ∈ check,
      data.contains j = true → data'.contains j = true ∧ (data'.get j).roles = (data.get j).roles)
    (hcache : ∀ stored, cache.find? d.bestCompatible = some stored →
      ∃ stored', cache'.find? d.bestCompatible = some stored' ∧ stored'.roles = stored.roles) :
    Told data' cache' guid d := by
  rcases h with hnone | ⟨check, stored, hkey, hguid, hstored, hcomb, hleaves⟩
  · exact .inl hnone
  · obtain ⟨stored', hstored', hroles⟩ := hcache stored hstored
    refine .inr ⟨check, stored', hkey, hguid, hstored', ?_, hroles ▸ hleaves⟩
    rw [hroles]
    exact hcomb.congr fun j hj => hdata check hkey.symm j hj (hcomb.2.1 j hj)

theorem Cached.congr (h : Cached data cache)
    (hdata : ∀ key check stored, cache'.find? key = some stored → key = concatenateGuids check →
      ∀ j ∈ check, data.contains j = true →
        data'.contains j = true ∧ (data'.get j).roles = (data.get j).roles)
    (hcache : ∀ key stored, cache'.find? key = some stored →
      stored.compatibility = .withLessPlayers → cache.find? key = some stored) :
    Cached data' cache' := by
  intro key stored hstored hless
  obtain ⟨check, hkey, hcomb⟩ := h key stored (hcache key stored hstored hless) hless
  exact ⟨check, hkey, hcomb.congr fun j hj =>
    hdata key check stored hstored hkey j hj (hcomb.2.1 j hj)⟩

/-- **A combination is noted**: the entry is told about it, if it is larger than the one before. -/
theorem Told.updateBest (h : Told data cache guid d) (hguid : guid ∈ check)
    (hcomb : Combination data check roles) {stored : LfgCompatibilityData}
    (hstored : cache.find? (concatenateGuids check) = some stored) (hroles : stored.roles = roles) :
    Told data cache guid (d.updateBestCompatibleInQueue (concatenateGuids check) roles) := by
  unfold LfgQueueData.updateBestCompatibleInQueue
  dsimp only
  generalize (if d.bestCompatible = [] then 0 else keySize d.bestCompatible) = storedSize
  split_ifs
  · exact h
  · obtain ⟨hsingle, htanks, hhealers, hdps⟩ := hcomb.fit
    obtain ⟨ht, hh, hd, hbest⟩ := @LfgQueueData.foldl_take _ hsingle { d with
      bestCompatible := concatenateGuids check
      tanks := .ofNat 8 lfgTanksNeeded
      healers := .ofNat 8 lfgHealersNeeded
      dps := .ofNat 8 lfgDpsNeeded } htanks hhealers hdps
    refine .inr ⟨check, stored, hbest, hguid, ?_, hroles ▸ hcomb, ?_⟩
    · rw [hbest]
      exact hstored
    · rw [hroles]
      exact ⟨ht, hh, hd⟩

/-- **The search for the best combination**, for an entry whose guid cannot be mistaken. -/
theorem Told.findBest (h : Told data q.compatibleMapStore guid d)
    (hcached : Cached data q.compatibleMapStore)
    (hguid : MatchState.Unmistakable q guid) :
    Told data q.compatibleMapStore guid (q.findBestCompatibleInQueue guid d) := by
  refine foldl_invariant (Told data q.compatibleMapStore guid) (fun d e he hd => ?_) h
  split_ifs with hmention
  · have hfind := mem_entries.mp he
    have hnames := hguid e he hmention.1 hmention.2
    obtain ⟨check, hkey, hcomb⟩ := hcached e.1 e.2 hfind hmention.1
    rw [hkey] at hnames hfind ⊢
    exact hd.updateBest ((names_concatenateGuids_iff hcomb.1).mp hnames) hcomb hfind rfl
  · exact hd

namespace StatusInv

/-! ## Entries come and go -/

section

variable (h : q.StatusInv)
include h

theorem setEntry (hroles : Playable d.roles) (hbest : d.bestCompatible = [])
    (hsame : ∀ old, q.queueDataStore.find? guid = some old → old.roles = d.roles) :
    StatusInv { q with queueDataStore := q.queueDataStore.set guid d } := by
  have hcontains : ∀ j, q.queueDataStore.contains j = true →
      (q.queueDataStore.set guid d).contains j = true := by
    intro j hj
    rw [OrderedMap.contains, find?_set]
    split_ifs
    · rfl
    · exact hj
  have hkept : ∀ j, q.queueDataStore.contains j = true →
      (q.queueDataStore.set guid d).contains j = true ∧
        ((q.queueDataStore.set guid d).get j).roles = (q.queueDataStore.get j).roles := by
    intro j hj
    refine ⟨hcontains j hj, ?_⟩
    by_cases hguid : j = guid
    · subst hguid
      obtain ⟨old, hold⟩ := contains_iff.mp hj
      rw [get_set_self, get_of_find? hold, hsame old hold]
    · rw [get_set_of_ne _ _ hguid]
  refine ⟨fun j e he => ?_, fun j hj => hcontains j (h.new j hj),
    fun j hj => hcontains j (h.current j hj), ?_, fun j e he => ?_⟩
  · rw [find?_set] at he
    split_ifs at he
    · cases he
      exact hroles
    · exact h.roles j e he
  · exact h.cached.congr (fun _ _ _ _ _ j _ hj => hkept j hj) fun _ _ hstored _ => hstored
  · rw [find?_set] at he
    split_ifs at he
    · cases he
      exact .inl hbest
    · exact (h.told j e he).congr (fun _ _ j _ hj => hkept j hj) fun stored hstored =>
        ⟨stored, hstored, rfl⟩

theorem addToQueue (guid : Guid) : (q.addToQueue guid).StatusInv := by
  unfold LFGQueue.addToQueue
  split_ifs with hguid
  · refine ⟨h.roles, fun j hj => ?_, h.current, h.cached, h.told⟩
    rcases List.mem_append.mp hj with hj | hj
    · exact h.new j hj
    · exact List.mem_singleton.mp hj ▸ hguid
  · exact h

theorem addQueueData (joinTime : ℕ) (dungeons : LfgDungeonSet) (hroles : Playable roles)
    (hsame : ∀ old, q.queueDataStore.find? guid = some old → old.roles = roles) :
    (q.addQueueData guid joinTime dungeons roles).StatusInv :=
  (h.setEntry (d := { joinTime := joinTime, dungeons := dungeons, roles := roles }) hroles rfl
    hsame).addToQueue guid

theorem getJoinTime (guid : Guid) (now : ℕ) : (q.getJoinTime guid now).StatusInv := by
  unfold LFGQueue.getJoinTime
  split_ifs with hguid
  · exact h
  · refine h.setEntry ⟨Nat.zero_le _, .inl rfl⟩ rfl fun old hold => ?_
    exact absurd (contains_iff.mpr ⟨old, hold⟩) hguid

theorem removeFromQueue
    (hguid : ∀ e ∈ q.queueDataStore.entries, e.1 ≠ guid →
      e.2.bestCompatible.mentions guid = true →
        MatchState.Unmistakable (q.removeFromCompatibles guid) e.1) :
    (q.removeFromQueue guid).StatusInv := by
  let kept := (((q.removeFromNewQueue guid).removeFromCurrentQueue guid).removeFromCompatibles guid)
  let refresh (k : Guid) (d : LfgQueueData) : LfgQueueData :=
    if k ≠ guid ∧ d.bestCompatible.mentions guid then
      kept.findBestCompatibleInQueue k { d with bestCompatible := [] }
    else d
  have hstore : (q.removeFromQueue guid).queueDataStore =
      (q.queueDataStore.mapVals refresh).erase guid := rfl
  have hfind : ∀ j e, (q.removeFromQueue guid).queueDataStore.find? j = some e →
      j ≠ guid ∧ ∃ d, q.queueDataStore.find? j = some d ∧ refresh j d = e := by
    intro j e he
    rw [hstore, find?_erase] at he
    split_ifs at he with hj
    rw [find?_mapVals, Option.map_eq_some_iff] at he
    exact ⟨hj, he⟩
  have hrefreshRoles : ∀ k d, (refresh k d).roles = d.roles := by
    intro k d
    simp only [refresh]
    split_ifs
    · exact congrArg Prod.snd (findBestCompatibleInQueue_checked kept k _)
    · rfl
  -- The other entries are there, with the same players.
  have hothers : ∀ j ≠ guid, q.queueDataStore.contains j = true →
      (q.removeFromQueue guid).queueDataStore.contains j = true ∧
        ((q.removeFromQueue guid).queueDataStore.get j).roles =
          (q.queueDataStore.get j).roles := by
    intro j hj hcontains
    obtain ⟨d, hd⟩ := contains_iff.mp hcontains
    have hd' : (q.removeFromQueue guid).queueDataStore.find? j = some (refresh j d) := by
      rw [hstore, find?_erase_of_ne _ hj, find?_mapVals, hd]
      rfl
    exact ⟨contains_iff.mpr ⟨_, hd'⟩, by
      rw [get_of_find? hd', get_of_find? hd, hrefreshRoles]⟩
  -- A key that does not mention the guid is not about it.
  have hmentions : ∀ check, (concatenateGuids check).mentions guid = false →
      ∀ j ∈ check, j ≠ guid := by
    rintro check hnot j hj rfl
    rw [mentions_concatenateGuids hj] at hnot
    cases hnot
  have hkeptKey : ∀ key stored, kept.compatibleMapStore.find? key = some stored →
      key.mentions guid = false ∧ q.compatibleMapStore.find? key = some stored := by
    intro key stored hstored
    have hfiltered : (q.compatibleMapStore.filterKeys fun key => !key.mentions guid).find? key =
        some stored := hstored
    rw [find?_filterKeys] at hfiltered
    split_ifs at hfiltered with hnot
    exact ⟨by simpa using hnot, hfiltered⟩
  have hcached : Cached (q.removeFromQueue guid).queueDataStore kept.compatibleMapStore := by
    refine h.cached.congr (fun key check stored hstored hkey j hj hcontains => ?_)
      fun key stored hstored _ => (hkeptKey key stored hstored).2
    exact hothers j (hmentions check (hkey ▸ (hkeptKey key stored hstored).1) j hj) hcontains
  refine ⟨fun j e he => ?_, fun j hj => ?_, fun j hj => ?_, hcached, fun j e he => ?_⟩
  · obtain ⟨-, d, hd, rfl⟩ := hfind j e he
    rw [hrefreshRoles]
    exact h.roles j d hd
  · obtain ⟨hj, hne⟩ := List.mem_filter.mp hj
    exact (hothers j (by simpa using hne) (h.new j hj)).1
  · obtain ⟨hj, hne⟩ := List.mem_filter.mp hj
    exact (hothers j (by simpa using hne) (h.current j hj)).1
  · obtain ⟨hne, d, hd, rfl⟩ := hfind j e he
    change Told _ kept.compatibleMapStore j _
    by_cases hrefresh : j ≠ guid ∧ d.bestCompatible.mentions guid = true
    · simp only [refresh, if_pos hrefresh]
      exact Told.findBest (.inl rfl) hcached
        (hguid (j, d) (mem_entries.mpr hd) hne hrefresh.2)
    · have hnot : d.bestCompatible.mentions guid = false := by
        cases hmention : d.bestCompatible.mentions guid with
        | true => exact absurd ⟨hne, hmention⟩ hrefresh
        | false => rfl
      simp only [refresh, if_neg hrefresh]
      refine (h.told j d hd).congr (fun check hkey i hi hcontains => ?_) fun stored hstored => ?_
      · exact hothers i (hmentions check (hkey ▸ hnot) i hi) hcontains
      · refine ⟨stored, ?_, rfl⟩
        change (q.compatibleMapStore.filterKeys fun key => !key.mentions guid).find? _ = _
        rw [find?_filterKeys, if_pos (by simp [hnot]), hstored]

theorem updateQueueTimers
    (hguid : ∀ e ∈ q.queueDataStore.entries, e.2.bestCompatible = [] →
      MatchState.Unmistakable q e.1) :
    q.updateQueueTimers.StatusInv := by
  let refresh (k : Guid) (d : LfgQueueData) : LfgQueueData :=
    if d.bestCompatible = [] then q.findBestCompatibleInQueue k d else d
  have hsame : SameEntries q.queueDataStore q.updateQueueTimers.queueDataStore := by
    refine SameEntries.mapVals _ fun k d => ?_
    split_ifs
    · exact findBestCompatibleInQueue_checked q k d
    · rfl
  have hothers : ∀ j, q.queueDataStore.contains j = true →
      q.updateQueueTimers.queueDataStore.contains j = true ∧
        (q.updateQueueTimers.queueDataStore.get j).roles = (q.queueDataStore.get j).roles :=
    fun j hj => ⟨(hsame.contains_eq j).trans hj, hsame.roles_get j⟩
  have hcached : Cached q.updateQueueTimers.queueDataStore q.compatibleMapStore :=
    h.cached.congr (fun _ _ _ _ _ j _ hj => hothers j hj) fun _ _ hstored _ => hstored
  have hfind : ∀ j e, q.updateQueueTimers.queueDataStore.find? j = some e →
      ∃ d, q.queueDataStore.find? j = some d ∧ refresh j d = e := by
    intro j e he
    have hmap : (q.queueDataStore.mapVals refresh).find? j = some e := he
    rwa [find?_mapVals, Option.map_eq_some_iff] at hmap
  refine ⟨fun j e he => ?_, fun j hj => (hothers j (h.new j hj)).1,
    fun j hj => (hothers j (h.current j hj)).1, hcached, fun j e he => ?_⟩
  · obtain ⟨d, hd, rfl⟩ := hfind j e he
    have hroles : (refresh j d).roles = d.roles := by
      simp only [refresh]
      split_ifs
      · exact congrArg Prod.snd (findBestCompatibleInQueue_checked q j d)
      · rfl
    rw [hroles]
    exact h.roles j d hd
  · obtain ⟨d, hd, rfl⟩ := hfind j e he
    change Told _ q.compatibleMapStore j _
    by_cases hbest : d.bestCompatible = []
    · simp only [refresh, if_pos hbest]
      exact Told.findBest (.inl hbest) hcached
        (hguid (j, d) (mem_entries.mpr hd) hbest)
    · simp only [refresh, if_neg hbest]
      exact (h.told j d hd).congr (fun _ _ i _ hi => hothers i hi) fun stored hstored =>
        ⟨stored, hstored, rfl⟩

/-! ## A search -/

theorem setCompatibles (key : LfgKey) {c : LfgCompatibility} (hc : c ≠ .withLessPlayers) :
    (q.setCompatibles key c).StatusInv := by
  refine ⟨h.roles, h.new, h.current, ?_, fun j d hd => ?_⟩
  · refine h.cached.congr (fun _ _ _ _ _ j _ hj => ⟨hj, rfl⟩) fun k stored hstored hless => ?_
    rw [LFGQueue.setCompatibles, find?_set] at hstored
    split_ifs at hstored
    · cases hstored
      exact absurd hless hc
    · exact hstored
  · refine (h.told j d hd).congr (fun _ _ i _ hi => ⟨hi, rfl⟩) fun stored hstored => ?_
    rw [LFGQueue.setCompatibles, find?_set]
    split_ifs with hkey
    · exact ⟨_, rfl, by rw [← hkey, hstored]; rfl⟩
    · exact ⟨stored, hstored, rfl⟩

theorem lists {new current : List Guid} (hnew : ∀ guid ∈ new, q.queueDataStore.contains guid = true)
    (hcurrent : ∀ guid ∈ current, q.queueDataStore.contains guid = true) :
    StatusInv { q with newToQueueStore := new, currentQueueStore := current } :=
  ⟨h.roles, hnew, hcurrent, h.cached, h.told⟩

/-- **A combination is noted** for each of its entries. -/
theorem noteLessPlayers (hcomb : Combination q.queueDataStore check roles) :
    (QueueEnv.noteLessPlayers check roles q).StatusInv := by
  have hsame := QueueEnv.sameEntries_noteLessPlayers check roles q
  have hothers : ∀ j, q.queueDataStore.contains j = true →
      (QueueEnv.noteLessPlayers check roles q).queueDataStore.contains j = true ∧
        ((QueueEnv.noteLessPlayers check roles q).queueDataStore.get j).roles =
          (q.queueDataStore.get j).roles :=
    fun j hj => ⟨(hsame.contains_eq j).trans hj, hsame.roles_get j⟩
  have hcache := QueueEnv.noteLessPlayers_compatibleMapStore check roles q
  generalize hnoted : (QueueEnv.noteLessPlayers check roles q).compatibleMapStore = cache at hcache
  -- An entry that was told about the same combination was told the same roles.
  have hbefore : ∀ j d, q.queueDataStore.find? j = some d → Told q.queueDataStore cache j d := by
    intro j d hd
    rcases h.told j d hd with hnone | ⟨check', stored, hkey, hj, hstored, hcomb', hleaves⟩
    · exact .inl hnone
    · by_cases heq : d.bestCompatible = concatenateGuids check
      · have hroles := hcomb'.roles_unique hcomb (hkey.symm.trans heq)
        refine .inr ⟨check', ⟨.withLessPlayers, roles⟩, hkey, hj, ?_, ?_, ?_⟩
        · rw [hcache, heq, find?_set_self]
        · exact hroles ▸ hcomb'
        · exact hroles ▸ hleaves
      · refine .inr ⟨check', stored, hkey, hj, ?_, hcomb', hleaves⟩
        rw [hcache, find?_set_of_ne _ _ heq, hstored]
  have hkeyCache : cache.find? (concatenateGuids check) = some ⟨.withLessPlayers, roles⟩ := by
    rw [hcache, find?_set_self]
  -- Each entry of the combination may be told about it.
  have htold : ∀ j d, (QueueEnv.noteLessPlayers check roles q).queueDataStore.find? j = some d →
      Told q.queueDataStore cache j d := by
    refine foldl_invariant (fun store : OrderedMap Guid LfgQueueData =>
      ∀ j d, store.find? j = some d → Told q.queueDataStore cache j d)
      (fun store guid hguid hstore => ?_) hbefore
    cases hd : store.find? guid with
    | none => exact hstore
    | some d =>
      intro j e he
      rw [find?_set] at he
      split_ifs at he with hj
      · cases he
        subst hj
        exact (hstore j d hd).updateBest hguid hcomb hkeyCache rfl
      · exact hstore j e he
  refine ⟨fun j e he => ?_, fun j hj => (hothers j (h.new j hj)).1,
    fun j hj => (hothers j (h.current j hj)).1, ?_, fun j e he => ?_⟩
  · obtain ⟨d, hd, -, hroles⟩ := hsame.symm.exists_find? he
    exact hroles ▸ h.roles j d hd
  · rw [hnoted]
    intro key stored hstored hless
    rw [hcache, find?_set] at hstored
    split_ifs at hstored with hkey
    · cases hstored
      exact ⟨check, hkey, hcomb.congr fun j hj => hothers j (hcomb.2.1 j hj)⟩
    · obtain ⟨check', hkey', hcomb'⟩ := h.cached key stored hstored hless
      exact ⟨check', hkey', hcomb'.congr fun j hj => hothers j (hcomb'.2.1 j hj)⟩
  · rw [hnoted]
    exact (htold j e he).congr (fun _ _ i _ hi => hothers i hi) fun stored hstored =>
      ⟨stored, hstored, rfl⟩

end

end StatusInv

end LFGQueue

namespace QueueEnv

open LFGQueue (Combination Playable StatusInv)

variable {env : QueueEnv} {data : OrderedMap Guid LfgQueueData} {check : List Guid}
  {roles : LfgRolesMap}

theorem combination_of_lessPlayers
    (hdata : ∀ guid d, data.find? guid = some d → Playable d.roles) (hne : check ≠ [])
    (hcheck : ∀ guid ∈ check, data.contains guid = true)
    (h : checkEntries env data check = .ok (.lessPlayers roles)) :
    Combination data check roles := by
  refine ⟨hne, hcheck, ?_⟩
  have hfind : ∀ guid ∈ check, ∃ d, data.find? guid = some d :=
    fun guid hguid => contains_iff.mp (hcheck guid hguid)
  rcases check with _ | ⟨front, _ | ⟨guid, rest⟩⟩
  · exact absurd rfl hne
  · obtain ⟨d, hd⟩ := hfind front List.mem_cons_self
    obtain ⟨hsize, hplayable⟩ := hdata front d hd
    rw [checkEntries_single hd hsize] at h
    split_ifs at h
    · cases h
      refine ⟨d.roles, fun player role => ?_, rfl, hsize, hplayable⟩
      rw [mem_rolesOf]
      simp [get_of_find? hd]
    · cases h
  · have hpresent : ∀ j ∈ front :: guid :: rest, data.find? j ≠ none := by
      intro j hj heq
      obtain ⟨d, hd⟩ := hfind j hj
      rw [heq] at hd
      cases hd
    obtain ⟨counted, hcount⟩ := @exists_countEntries env _ _ hpresent {}
    have hsmall : ∀ j ∈ front :: guid :: rest, (data.get j).roles.size ≤ maxGroupSize := by
      intro j hj
      obtain ⟨d, hd⟩ := hfind j hj
      rw [get_of_find? hd]
      exact (hdata j d hd).1
    rcases checkEntries_spec (by simp) hsmall hcount with
      ⟨c, hv, -⟩ | ⟨roles', hv, hroles, hcomp, -⟩ | ⟨roles', hv, -⟩
    · rw [hv] at h; cases h
    · rw [hv] at h
      cases h
      have hmerged := (mergeRoles_size_eq_iff env data _).mpr ⟨hcomp.nodup, hcomp.noIgnores⟩
      refine ⟨env.mergeRoles data (front :: guid :: rest), fun player role => ?_, by rw [hroles],
        hmerged ▸ hcomp.players_le, .inr (by rw [hroles])⟩
      rw [← mem_entries]
      exact (entries_mergeRoles_perm env data hmerged).mem_iff
    · rw [hv] at h; cases h

/-- A verdict that entries do not go together is not that more players are needed. -/
theorem ne_withLessPlayers_of_incompatible {c : LfgCompatibility}
    (h : checkEntries env data check = .ok (.incompatible c)) : c ≠ .withLessPlayers := by
  rintro rfl
  unfold checkEntries at h
  cases hc : countEntries env data check {} with
  | error j => rw [hc] at h; cases h
  | ok counted =>
    rw [hc] at h
    simp only at h
    cases hg : checkGroupRoles (mergeRoles env data check) with
    | mk found roles =>
      rw [hg] at h
      cases found <;> simp only at h <;> split_ifs at h <;> cases h

theorem exists_checkEntries (h : ∀ guid ∈ check, data.find? guid ≠ none) :
    ∃ verdict, checkEntries env data check = .ok verdict := by
  obtain ⟨counted, hcount⟩ := @exists_countEntries env data check h {}
  simp only [checkEntries, hcount]
  cases checkGroupRoles (mergeRoles env data check) with
  | mk found roles =>
    cases found <;> simp only <;> split_ifs <;> exact ⟨_, rfl⟩

theorem searchKeeps_statusInv (env : QueueEnv) (st : MatchState) :
    SearchKeeps env (fun guid => st.queue.queueDataStore.contains guid = true)
      fun st' => st'.queue.StatusInv ∧ env.Searched st st' where
  verdict check st' hne hlen hcheck hst := by
    obtain ⟨hinv, hsearched⟩ := hst
    refine ⟨?_, (searchKeeps_searched env st).verdict check st' hne hlen (fun _ _ => trivial)
      hsearched⟩
    have hcheck' : ∀ guid ∈ check, st'.queue.queueDataStore.contains guid = true :=
      fun guid hguid => (hsearched.same.contains_eq guid).trans (hcheck guid hguid)
    unfold applyVerdict
    cases hv : checkEntries env st'.queue.queueDataStore check with
    | error guid =>
      obtain ⟨verdict, hv'⟩ := @exists_checkEntries env _ check fun j hj heq => by
        obtain ⟨d, hd⟩ := contains_iff.mp (hcheck' j hj)
        rw [heq] at hd
        cases hd
      rw [hv] at hv'
      cases hv'
    | ok verdict =>
      cases verdict with
      | incompatible c => exact hinv.setCompatibles _ (ne_withLessPlayers_of_incompatible hv)
      | lessPlayers roles =>
        exact hinv.noteLessPlayers (combination_of_lessPlayers hinv.roles hne hcheck' hv)
      | full counted roles dungeons =>
        by_cases hqueued : env.allQueued check = true
        · simp only [if_pos hqueued, propose, foldl_remove_eq]
          refine StatusInv.setCompatibles (hinv.lists (fun guid hguid => ?_) fun guid hguid => ?_)
            _ (by decide)
          · exact hinv.new guid (List.mem_filter.mp hguid).1
          · exact hinv.current guid (List.mem_filter.mp hguid).1
        · simp only [if_neg hqueued]
          exact hinv.setCompatibles _ (by decide)
  cache key c st' hc hst := ⟨hst.1.setCompatibles key hc,
    (searchKeeps_searched env st).cache key c st' hc hst.2⟩
  pop guid st' hst := ⟨hst.1.lists (fun j hj => hst.1.new j (List.mem_filter.mp hj).1)
    hst.1.current, (searchKeeps_searched env st).pop guid st' hst.2⟩
  push guid st' hguid hst := by
    refine ⟨hst.1.lists hst.1.new fun j hj => ?_,
      (searchKeeps_searched env st).push guid st' trivial hst.2⟩
    rcases List.mem_append.mp hj with hj | hj
    · exact hst.1.current j hj
    · rw [List.mem_singleton.mp hj, hst.2.same.contains_eq]
      exact hguid
  new st' hst guid hguid := (hst.2.same.contains_eq guid).symm.trans (hst.1.new guid hguid)
  current st' hst guid hguid :=
    (hst.2.same.contains_eq guid).symm.trans (hst.1.current guid hguid)

end QueueEnv

namespace MatchState

/-- **One operation.** -/
theorem statusInv_step {st : MatchState} (h : st.queue.StatusInv) {op : QueueOp}
    (hop : st.StatusKept op) : (st.step op).queue.StatusInv := by
  cases op with
  | addQueueData guid joinTime dungeons rolesMap =>
    obtain ⟨⟨hsize, hroles⟩, hsame⟩ := hop
    exact h.addQueueData joinTime dungeons ⟨hsize, .inr hroles⟩ fun old hold => hsame old hold
  | addToQueue guid => exact h.addToQueue guid
  | removeFromQueue guid => exact h.removeFromQueue hop
  | getJoinTime guid now => exact h.getJoinTime guid now
  | updateQueueTimers => exact h.updateQueueTimers hop
  | findGroups env =>
    exact ((QueueEnv.searchKeeps_statusInv env st).findGroups ⟨h, QueueEnv.Searched.refl st⟩).1

/-- The queue when the server starts. -/
def opened : MatchState := ⟨{}, ProposalPool.empty⟩

theorem statusInv_opened : opened.queue.StatusInv where
  roles guid d hd := by simp [opened] at hd
  new guid hguid := by simp [opened] at hguid
  current guid hguid := by simp [opened] at hguid
  cached key stored hstored := by simp [opened] at hstored
  told guid d hd := by simp [opened] at hd

/-- **The status is right in every run that meets the condition.** -/
theorem statusRight_run {ops : List QueueOp} (h : Admissible step StatusKept opened ops) :
    (run step opened ops).queue.AllStatusRight := by
  have hinv : (run step opened ops).queue.StatusInv :=
    run_invariant (fun st => st.queue.StatusInv)
      (fun _ _ hst hop => statusInv_step hst hop) statusInv_opened h
  exact hinv.allStatusRight

/-- One player joins alone. -/
def joinAlone (guid : Guid) (role : LfgRoles) : QueueOp :=
  .addQueueData guid 0 (OrderedSet.ofList [7]) (OrderedMap.empty.set guid role)

/-- Two tanks, a healer and a damage dealer join; the second tank goes with the healer only. -/
def fourJoin : List QueueOp :=
  [joinAlone 12 playerRoleTank, joinAlone 13 playerRoleHealer, joinAlone 1 playerRoleTank,
    joinAlone 21 playerRoleDamage, .findGroups QueueEnv.allQueuedEnv]

theorem statusRight_run_fourJoin :
    (run step opened
      (fourJoin ++ [.removeFromQueue 21, .updateQueueTimers])).queue.AllStatusRight :=
  statusRight_run (by decide +kernel)

/-- The healer leaves: the second tank is told about a combination of the two others, because its
guid is 1 and theirs are 12 and 21. -/
theorem not_statusRight_run :
    ¬∀ ops : List QueueOp, (run step opened ops).queue.AllStatusRight := by
  intro h
  let q := (run step opened (fourJoin ++ [.removeFromQueue 13])).queue
  have hcontains : q.queueDataStore.contains 1 = true := by decide +kernel
  have hbest : (q.queueDataStore.get 1).bestCompatible = concatenateGuids [12, 21] := by
    decide +kernel
  obtain ⟨data, hdata⟩ := contains_iff.mp hcontains
  rw [get_of_find? hdata] at hbest
  obtain ⟨check, -, hkey, hmem, -⟩ := h _ 1 data hdata (by rw [hbest]; decide)
  have hguid := (concatenateGuids_eq_iff.mp (hkey.symm.trans hbest) 1).mp hmem
  revert hguid
  decide

end MatchState

end TeraCore
