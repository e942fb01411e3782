import TeraCore.DungeonFinding.Roles

/-!
# What `checkGroupRoles` decides

A group's players have selected sets of roles.  `checkGroupRoles` says yes exactly if each of them
can be given one selected role, with no more tanks, healers and damage dealers than a group needs;
the map then has the roles given, and otherwise what it had, without the leader's flag.

At its end the walk compares the number of players it has counted with the size of the group *in a
byte*.  A group of 256 players, none of whom has only one role, passes with nobody counted.

## Main results

* `checkGroupRoles_solves`: the answer is right for groups below 256 players, and for those whose
  size leaves more than five in a byte
* `not_checkGroupRoles_solves`: 256 players who may all tank or heal
-/

namespace TeraCore

open Commons OrderedMap

/-- **Roles given to the players**: one for each, which the player has selected, and not more of any
than a group needs. -/
structure Assigns (groles : LfgRolesMap) (given : Guid → LfgRoles) : Prop where
  single : ∀ guid ∈ groles.keys, SingleRole (given guid)
  selected : ∀ guid ∈ groles.keys, groles.get guid &&& given guid = given guid
  fit : (countRoles groles.keys given).Fit

/-- Nobody has selected anything but the three roles and the leader's flag. -/
def OnlyRoles (groles : LfgRolesMap) : Prop := ∀ guid ∈ groles.keys, groles.get guid &&& 0xF0 = 0

instance (groles : LfgRolesMap) : Decidable (OnlyRoles groles) :=
  inferInstanceAs (Decidable (∀ guid ∈ groles.keys, groles.get guid &&& 0xF0 = 0))

/-- **The answer is right**, and so is the map it leaves. -/
structure SolvesRoles (groles : LfgRolesMap) : Prop where
  found_iff : (checkGroupRoles groles).1 = true ↔
    groles.size ≠ 0 ∧ ∃ given, Assigns groles given
  assigned : (checkGroupRoles groles).1 = true →
    (checkGroupRoles groles).2.keys = groles.keys ∧ Assigns groles (checkGroupRoles groles).2.get
  restored : (checkGroupRoles groles).1 = false →
    (checkGroupRoles groles).2 = removeLeaderFlag groles

/-! ## The leader's flag -/

section LeaderFlag

variable {groles : LfgRolesMap} {given : Guid → LfgRoles} {guid : Guid}

theorem removeLeaderFlag_get (h : guid ∈ groles.keys) :
    (removeLeaderFlag groles).get guid = groles.get guid &&& ~~~playerRoleLeader := by
  obtain ⟨role, hrole⟩ := mem_keys.mp h
  have hfind : (removeLeaderFlag groles).find? guid = some (role &&& ~~~playerRoleLeader) := by
    rw [removeLeaderFlag, find?_mapVals, hrole]
    rfl
  rw [get_of_find? hfind, get_of_find? hrole]

theorem and_single_of_flag {selected role : LfgRoles} (h : SingleRole role) :
    (selected &&& ~~~playerRoleLeader) &&& role = selected &&& role := by
  rcases h with rfl | rfl | rfl <;> revert selected <;> decide

theorem plain_of_flag {selected : LfgRoles} (h : selected &&& 0xF0 = 0) :
    (selected &&& ~~~playerRoleLeader) &&& 0xF1 = 0 := by
  revert selected
  decide

theorem suitsRoles_removeLeaderFlag_iff (hroles : OnlyRoles groles) :
    SuitsRoles (removeLeaderFlag groles) given ↔ Assigns groles given := by
  constructor
  · intro h
    have hsingle := h.single
    have hselected := h.selected
    have hfit := h.fit
    rw [removeLeaderFlag_keys] at hsingle hselected hfit
    refine ⟨hsingle, fun guid hguid => ?_, hfit⟩
    have hsel := hselected guid hguid
    rwa [removeLeaderFlag_get hguid, and_single_of_flag (hsingle guid hguid)] at hsel
  · intro h
    constructor
    all_goals rw [removeLeaderFlag_keys]
    · exact h.single
    · intro guid hguid
      rw [removeLeaderFlag_get hguid, and_single_of_flag (h.single guid hguid)]
      exact h.selected guid hguid
    · intro guid hguid
      rw [removeLeaderFlag_get hguid]
      exact plain_of_flag (hroles guid hguid)
    · exact h.fit

end LeaderFlag

/-! ## Groups of any size -/

section Sizes

variable {check : LfgRolesMap → Bool × LfgRolesMap} {groles groles' : LfgRolesMap}
  {given : Guid → LfgRoles}

theorem Assigns.size_le (h : Assigns groles given) : groles.size ≤ 5 := by
  have hall : groles.keys.countP (fun guid => SingleRole (given guid)) = groles.keys.length :=
    List.countP_eq_length.mpr fun guid hguid => decide_eq_true (h.single guid hguid)
  have hsum := countRoles_sum groles.keys given
  obtain ⟨hdamage, hhealer, htank⟩ := h.fit
  simp only [lfgDpsNeeded, lfgHealersNeeded, lfgTanksNeeded] at hdamage hhealer htank
  rw [hall, length_keys] at hsum
  omega

theorem size_le_of_checkPlayers (hback : FailsBack check)
    (hcheck : ∀ groles groles', check groles = (true, groles') → groles.size % 2 ^ 8 ≤ 5)
    {rest : List Guid} (hrest : ∀ guid ∈ rest, guid ∈ groles.keys) {counts : RoleCounts}
    (hfit : counts.Fit) (h : checkPlayers check rest groles counts = (true, groles')) :
    groles.size % 2 ^ 8 ≤ 5 := by
  induction rest generalizing counts with
  | nil =>
    obtain ⟨hsum, -⟩ := Prod.mk.inj h
    rw [beq_iff_eq] at hsum
    obtain ⟨hdamage, hhealer, htank⟩ := hfit
    simp only [lfgDpsNeeded, lfgHealersNeeded, lfgTanksNeeded] at hdamage hhealer htank
    omega
  | cons guid rest ih =>
    have hguid := hrest guid List.mem_cons_self
    simp only [checkPlayers] at h
    cases hp : checkPlayer check guid groles counts with
    | error answer =>
      rw [hp] at h
      obtain rfl : answer = (true, groles') := h
      rcases checkPlayer_error hback hguid hp with ⟨-, role, -, -, hc⟩ | ⟨hfalse, -⟩
      · have hsize := hcheck _ _ hc
        rwa [without_size hguid] at hsize
      · cases hfalse
    | ok next =>
      obtain ⟨rfl, -, hfit₁, -⟩ := checkPlayer_ok hback hguid hp
      rw [hp] at h
      exact ih (fun j hj => hrest j (List.mem_cons_of_mem _ hj)) (hfit₁ hfit) h

theorem size_le_of_checkSelectedRoles (depth : ℕ) : ∀ groles groles' : LfgRolesMap,
    checkSelectedRoles depth groles = (true, groles') → groles.size % 2 ^ 8 ≤ 5 := by
  induction depth with
  | zero =>
    intro groles groles' h
    cases h
  | succ depth ih =>
    intro groles groles' h
    simp only [checkSelectedRoles] at h
    split_ifs at h
    · cases h
    have hfit : RoleCounts.Fit {} := ⟨Nat.zero_le _, Nat.zero_le _, Nat.zero_le _⟩
    exact size_le_of_checkPlayers (checkSelectedRoles_failsBack depth) ih (fun _ hj => hj) hfit h

/-- **A walk past players who all have several roles**, each of whom cannot do without any of them,
counts nobody. -/
theorem checkPlayers_of_several (hback : FailsBack check) (hsize : groles.size % 2 ^ 8 = 0)
    (hseveral : ∀ guid ∈ groles.keys, groles.get guid ≠ 0 ∧ ¬ SingleRole (groles.get guid))
    {rest : List Guid} (hrest : ∀ guid ∈ rest, guid ∈ groles.keys) :
    (checkPlayers check rest groles {}).1 = true := by
  induction rest with
  | nil =>
    simp only [checkPlayers]
    rw [hsize]
    rfl
  | cons guid rest ih =>
    have hguid := hrest guid List.mem_cons_self
    obtain ⟨hne, hnot⟩ := hseveral guid hguid
    simp only [checkPlayers]
    cases hp : checkPlayer check guid groles {} with
    | error answer =>
      rcases checkPlayer_error hback hguid hp with ⟨htrue, -⟩ | ⟨-, hzero | ⟨role, hr, heq, -⟩⟩
      · exact htrue
      · exact absurd hzero hne
      · exact absurd (heq ▸ hr) hnot
    | ok next =>
      obtain ⟨groles₁, counts₁⟩ := next
      obtain ⟨rfl, rfl, -, -⟩ := checkPlayer_ok hback hguid hp
      have hnobody : RoleCounts.add {} (groles₁.get guid) = {} := by
        have hd : groles₁.get guid ≠ playerRoleDamage := fun h => hnot (.inr (.inr h))
        have hh : groles₁.get guid ≠ playerRoleHealer := fun h => hnot (.inr (.inl h))
        have ht : groles₁.get guid ≠ playerRoleTank := fun h => hnot (.inl h)
        simp [RoleCounts.add, hd, hh, ht]
      rw [hnobody]
      exact ih fun j hj => hrest j (List.mem_cons_of_mem _ hj)

end Sizes

/-! ## The answer -/

/-- **`checkGroupRoles` solves the roles** of a group below 256 players, and of one whose size
leaves more than five in a byte. -/
theorem checkGroupRoles_solves (groles : LfgRolesMap) (hroles : OnlyRoles groles)
    (hsize : groles.size < 2 ^ 8 ∨ 5 < groles.size % 2 ^ 8) : SolvesRoles groles := by
  have hfailed : (checkGroupRoles groles).1 = false →
      (checkGroupRoles groles).2 = removeLeaderFlag groles :=
    checkSelectedRoles_failsBack _ (removeLeaderFlag groles)
  rcases hsize with hsize | hsize
  · refine ⟨?_, fun h => ?_, hfailed⟩
    · rw [checkGroupRoles_iff hsize]
      simp only [suitsRoles_removeLeaderFlag_iff hroles]
    · obtain ⟨hkeys, hsuits⟩ := checkGroupRoles_sound hsize (Prod.ext h rfl)
      exact ⟨hkeys, (suitsRoles_removeLeaderFlag_iff hroles).mp hsuits⟩
  · have hno : (checkGroupRoles groles).1 ≠ true := by
      intro h
      have hle := size_le_of_checkSelectedRoles _ (removeLeaderFlag groles) _ (Prod.ext h rfl)
      rw [removeLeaderFlag_size] at hle
      omega
    refine ⟨⟨fun h => absurd h hno, fun ⟨_, given, hgiven⟩ => ?_⟩, fun h => absurd h hno, hfailed⟩
    have hle := hgiven.size_le
    omega

/-- `n` players who have all selected the same. -/
def crowd (n : ℕ) (selected : LfgRoles) : LfgRolesMap where
  entries := (List.range n).map fun guid => (guid, selected)
  sorted := by
    rw [List.pairwise_map]
    exact List.pairwise_lt_range

theorem size_crowd (n : ℕ) (selected : LfgRoles) : (crowd n selected).size = n := by
  simp [OrderedMap.size, crowd]

theorem get_crowd {n : ℕ} {selected : LfgRoles} {guid : Guid}
    (h : guid ∈ (crowd n selected).keys) : (crowd n selected).get guid = selected := by
  obtain ⟨role, hrole⟩ := mem_keys.mp h
  rw [get_of_find? hrole]
  have hentry := mem_entries.mpr hrole
  obtain ⟨guid', -, heq⟩ := List.mem_map.mp hentry
  exact (Prod.mk.inj heq).2.symm

/-- A group of five, whose third player may heal or deal damage. -/
theorem checkGroupRoles_solves_fivePlayers :
    SolvesRoles (((((OrderedMap.empty.set 1 0x2).set 2 0x4).set 3 0xD).set 4 0x8).set 5 0x8) :=
  checkGroupRoles_solves _ (by decide) (by decide)

/-- 256 players who may all tank or heal: nobody is counted, and nothing is left of the group's size
in a byte. -/
theorem not_checkGroupRoles_solves :
    ¬ ∀ groles : LfgRolesMap, OnlyRoles groles → SolvesRoles groles := by
  intro h
  have hroles : OnlyRoles (crowd 256 0x6) := by
    intro guid hguid
    rw [get_crowd hguid]
    decide
  obtain ⟨hfound, -, -⟩ := h (crowd 256 0x6) hroles
  have hsize : (removeLeaderFlag (crowd 256 0x6)).size = 256 := by
    rw [removeLeaderFlag_size, size_crowd]
  have hyes : (checkGroupRoles (crowd 256 0x6)).1 = true := by
    rw [checkGroupRoles, checkSelectedRoles, if_neg (by rw [hsize]; decide)]
    refine checkPlayers_of_several (checkSelectedRoles_failsBack _) (by omega) ?_
      fun _ hj => hj
    intro guid hguid
    rw [removeLeaderFlag_keys] at hguid
    rw [removeLeaderFlag_get hguid, get_crowd hguid]
    decide
  obtain ⟨-, given, hgiven⟩ := hfound.mp hyes
  have hle := hgiven.size_le
  rw [size_crowd] at hle
  omega

end TeraCore
