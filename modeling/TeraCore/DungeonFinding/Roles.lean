import Mathlib.Data.BitVec
import TeraCore.Commons.OrderedMap
import TeraCore.Entities.ObjectGuid

/-!
# Roles of a dungeon group

A player selects a set of roles; a group needs one tank, one healer and three damage dealers.
`checkGroupRoles` decides whether every player of a group can be given one of the selected
roles, and gives it to them: it takes one role after another from the selection of a player who
has several, and tries again with what is left.

## Main results

* `checkGroupRoles_sound`: the roles given are single, selected, and not more than needed
* `checkGroupRoles_iff`: the answer is yes exactly if such roles exist
-/

namespace TeraCore

open Commons OrderedMap

/-- A set of roles, one bit for each. -/
abbrev LfgRoles := BitVec 8

def playerRoleNone : LfgRoles := 0x00
def playerRoleLeader : LfgRoles := 0x01
def playerRoleTank : LfgRoles := 0x02
def playerRoleHealer : LfgRoles := 0x04
def playerRoleDamage : LfgRoles := 0x08

def lfgTanksNeeded : ℕ := 1
def lfgHealersNeeded : ℕ := 1
def lfgDpsNeeded : ℕ := 3

/-- The selected roles of a group's players. -/
abbrev LfgRolesMap := OrderedMap Guid LfgRoles

/-- The number of players given each role so far. -/
structure RoleCounts where
  damage : ℕ := 0
  healer : ℕ := 0
  tank : ℕ := 0

/-- The selections after one role is taken out of a player's. -/
def LfgRolesMap.without (groles : LfgRolesMap) (guid : Guid) (role : LfgRoles) : LfgRolesMap :=
  groles.set guid (groles.get guid - role)

variable (check : LfgRolesMap → Bool × LfgRolesMap)

/-- **One role of one player**, in the walk over the group.  A player who has selected other
roles too is tried without this one, with `check`, and gets it back if that fails.  The first
component answers for the whole group, the second goes on with the new count. -/
def checkRole (guid : Guid) (role : LfgRoles) (needed : ℕ) (groles : LfgRolesMap) (count : ℕ) :
    Except (Bool × LfgRolesMap) (LfgRolesMap × ℕ) :=
  let selected := groles.get guid
  if selected &&& role = 0 then .ok (groles, count)
  else if selected ≠ role then
    match check (groles.without guid role) with
    | (true, groles) => .error (true, groles)
    | (false, groles) => .ok (groles.set guid (groles.get guid + role), count)
  else if count = needed then .error (false, groles)
  else .ok (groles, count + 1)

/-- One player: damage, healer and tank in turn. -/
def checkPlayer (guid : Guid) (groles : LfgRolesMap) (counts : RoleCounts) :
    Except (Bool × LfgRolesMap) (LfgRolesMap × RoleCounts) := do
  if groles.get guid = playerRoleNone then
    throw (false, groles)
  let (groles, damage) ← checkRole check guid playerRoleDamage lfgDpsNeeded groles counts.damage
  let (groles, healer) ←
    checkRole check guid playerRoleHealer lfgHealersNeeded groles counts.healer
  let (groles, tank) ← checkRole check guid playerRoleTank lfgTanksNeeded groles counts.tank
  return (groles, ⟨damage, healer, tank⟩)

/-- The walk over the players. -/
def checkPlayers (check : LfgRolesMap → Bool × LfgRolesMap) :
    List Guid → LfgRolesMap → RoleCounts → Bool × LfgRolesMap
  | [], groles, counts =>
    (counts.tank + counts.healer + counts.damage == groles.size % 2 ^ 8, groles)
  | guid :: guids, groles, counts =>
    match checkPlayer check guid groles counts with
    | .error answer => answer
    | .ok (groles, counts) => checkPlayers check guids groles counts

/-- `checkGroupRoles` without the leader flag, with a bound on the depth of its recursion. -/
def checkSelectedRoles : ℕ → LfgRolesMap → Bool × LfgRolesMap
  | 0, groles => (false, groles)
  | depth + 1, groles =>
    if groles.size = 0 then (false, groles)
    else checkPlayers (checkSelectedRoles depth) groles.keys groles {}

/-- What every step of the recursion makes smaller. -/
def rolesSum (groles : LfgRolesMap) : ℕ := (groles.values.map BitVec.toNat).sum

/-- The roles without the leader flag. -/
def removeLeaderFlag (groles : LfgRolesMap) : LfgRolesMap :=
  groles.mapVals fun _ role => role &&& ~~~playerRoleLeader

/-- **Can a group be formed with these roles?**  The map it leaves has the roles given, if so. -/
def checkGroupRoles (groles : LfgRolesMap) : Bool × LfgRolesMap :=
  checkSelectedRoles (rolesSum (removeLeaderFlag groles) + 1) (removeLeaderFlag groles)

/-! ## What an answer means -/

/-- The three roles a player can be given. -/
def SingleRole (role : LfgRoles) : Prop :=
  role = playerRoleTank ∨ role = playerRoleHealer ∨ role = playerRoleDamage

instance (role : LfgRoles) : Decidable (SingleRole role) := inferInstanceAs (Decidable (_ ∨ _))

/-- The number of players given each role. -/
def countRoles (guids : List Guid) (given : Guid → LfgRoles) : RoleCounts where
  damage := guids.countP fun guid => given guid = playerRoleDamage
  healer := guids.countP fun guid => given guid = playerRoleHealer
  tank := guids.countP fun guid => given guid = playerRoleTank

structure RoleCounts.Fit (counts : RoleCounts) : Prop where
  damage_le : counts.damage ≤ lfgDpsNeeded
  healer_le : counts.healer ≤ lfgHealersNeeded
  tank_le : counts.tank ≤ lfgTanksNeeded

/-- **The roles `given` suit the selections of a group**: one role for each player, which the
player selected, and not more of any than needed.  Nobody selected anything but roles. -/
structure SuitsRoles (groles : LfgRolesMap) (given : Guid → LfgRoles) : Prop where
  single : ∀ guid ∈ groles.keys, SingleRole (given guid)
  selected : ∀ guid ∈ groles.keys, groles.get guid &&& given guid = given guid
  plain : ∀ guid ∈ groles.keys, groles.get guid &&& 0xF1 = 0
  fit : (countRoles groles.keys given).Fit

/-- A failed check leaves the map as it found it. -/
def FailsBack : Prop :=
  ∀ groles, (check groles).1 = false → (check groles).2 = groles

section Bits

variable {selected role given : LfgRoles}

theorem SingleRole.ne_zero (h : SingleRole role) : role ≠ 0 := by
  rcases h with rfl | rfl | rfl <;> decide

theorem sub_eq_and_not (hr : SingleRole role) (h : selected &&& role ≠ 0) :
    selected - role = selected &&& ~~~role := by
  rcases hr with rfl | rfl | rfl <;> revert selected <;> decide +kernel

theorem toNat_sub_lt (hr : SingleRole role) (h : selected &&& role ≠ 0) :
    (selected - role).toNat < selected.toNat := by
  rw [sub_eq_and_not hr h, BitVec.toNat_and]
  refine lt_of_le_of_ne Nat.and_le_left fun heq => h ?_
  have hsame : selected &&& ~~~role = selected := BitVec.eq_of_toNat_eq heq
  rw [← hsame, BitVec.and_assoc, BitVec.and_comm (~~~role), BitVec.and_not_self]
  exact BitVec.and_zero

theorem sub_and_of_ne (hr : SingleRole role) (hg : SingleRole given) (hne : role ≠ given)
    (h : selected &&& role ≠ 0) : (selected - role) &&& given = selected &&& given := by
  have hother : ~~~role &&& given = given := by
    rcases hr with rfl | rfl | rfl <;> rcases hg with rfl | rfl | rfl <;>
      first
      | exact absurd rfl hne
      | decide
  rw [sub_eq_and_not hr h, BitVec.and_assoc, hother]

theorem sub_and_plain (hr : SingleRole role) (h : selected &&& role ≠ 0) :
    (selected - role) &&& 0xF1 = selected &&& 0xF1 := by
  have hother : ~~~role &&& 0xF1 = 0xF1 := by
    rcases hr with rfl | rfl | rfl <;> decide
  rw [sub_eq_and_not hr h, BitVec.and_assoc, hother]

theorem and_of_sub_and (hr : SingleRole role) (h : selected &&& role ≠ 0)
    (hs : (selected - role) &&& given = given) : selected &&& given = given := by
  rw [sub_eq_and_not hr h] at hs
  calc selected &&& given = selected &&& (selected &&& ~~~role &&& given) := by rw [hs]
    _ = selected &&& ~~~role &&& given := by
      rw [← BitVec.and_assoc, ← BitVec.and_assoc, BitVec.and_self]
    _ = given := hs

theorem exists_other_role (hg : SingleRole given) (hs : selected &&& given = given)
    (hp : selected &&& 0xF1 = 0) (hne : selected ≠ given) :
    ∃ role, SingleRole role ∧ role ≠ given ∧ selected &&& role ≠ 0 := by
  by_contra hno
  push Not at hno
  rcases hg with rfl | rfl | rfl <;> revert selected <;> decide +kernel

theorem SingleRole.plain (h : SingleRole role) : role &&& 0xF1 = 0 := by
  rcases h with rfl | rfl | rfl <;> decide

end Bits

/-! ## One role, one player -/

section Steps

variable {check} {guid : Guid} {groles : LfgRolesMap}

theorem without_keys (h : guid ∈ groles.keys) (role : LfgRoles) :
    (groles.without guid role).keys = groles.keys :=
  keys_set_of_mem _ h

theorem without_size (h : guid ∈ groles.keys) (role : LfgRoles) :
    (groles.without guid role).size = groles.size := by
  rw [← length_keys, without_keys h, length_keys]

theorem without_get_of_ne {j : Guid} (h : j ≠ guid) (role : LfgRoles) :
    (groles.without guid role).get j = groles.get j :=
  get_set_of_ne _ _ h

@[simp] theorem without_get_self (role : LfgRoles) :
    (groles.without guid role).get guid = groles.get guid - role :=
  get_set_self _ _ _

theorem set_without_get_add (h : guid ∈ groles.keys) (role : LfgRoles) :
    (groles.without guid role).set guid
      ((groles.without guid role).get guid + role) = groles := by
  rw [without_get_self, BitVec.sub_add_cancel, LfgRolesMap.without, set_set,
    set_get h]

variable {role : LfgRoles}

theorem rolesSum_without (h : guid ∈ groles.keys) (hr : SingleRole role)
    (hs : groles.get guid &&& role ≠ 0) :
    rolesSum (groles.without guid role) < rolesSum groles := by
  have hlt := toNat_sub_lt hr hs
  have hbefore := values_perm_erase (find?_of_mem_keys h)
  have hafter := values_set_perm groles guid (groles.get guid - role)
  rw [rolesSum, rolesSum, LfgRolesMap.without, (hafter.map _).sum_nat, (hbefore.map _).sum_nat]
  simp only [List.map_cons, List.sum_cons]
  omega

/-- The walk goes on: the map is unchanged, a player who has only this role is counted, and
one who has others too cannot do without it. -/
theorem checkRole_ok (hback : FailsBack check) (hguid : guid ∈ groles.keys)
    (hr : SingleRole role) {needed count : ℕ} {groles' : LfgRolesMap} {count' : ℕ}
    (h : checkRole check guid role needed groles count = .ok (groles', count')) :
    groles' = groles ∧ count' = count + (if groles.get guid = role then 1 else 0) ∧
      (groles.get guid = role → count ≠ needed) ∧
      (groles.get guid &&& role ≠ 0 → groles.get guid ≠ role →
        (check (groles.without guid role)).1 = false) := by
  unfold checkRole at h
  simp only at h
  split_ifs at h with h₁ h₂ h₃
  · have hne : groles.get guid ≠ role := by
      rintro heq
      exact hr.ne_zero (by rwa [heq, BitVec.and_self] at h₁)
    obtain ⟨rfl, rfl⟩ := Prod.mk.inj (Except.ok.inj h)
    exact ⟨rfl, by simp [hne], fun heq => absurd heq hne, fun hs => absurd h₁ hs⟩
  · cases hc : check (groles.without guid role) with
    | mk found left =>
      cases found with
      | true => rw [hc] at h; cases h
      | false =>
        have hleft := hback _ (by rw [hc])
        rw [hc] at h hleft
        obtain ⟨rfl, rfl⟩ := Prod.mk.inj (Except.ok.inj h)
        simp only at hleft
        rw [hleft, set_without_get_add hguid]
        exact ⟨rfl, by simp [h₂], fun heq => absurd heq h₂, fun _ _ => rfl⟩
  · obtain ⟨rfl, rfl⟩ := Prod.mk.inj (Except.ok.inj h)
    push Not at h₂
    exact ⟨rfl, by simp [h₂], fun _ => h₃, fun _ hne => absurd h₂ hne⟩

/-- The walk ends: with the answer for the group without this role, or because the player has
only this role and it is taken. -/
theorem checkRole_error {needed count : ℕ} {answer : Bool × LfgRolesMap}
    (h : checkRole check guid role needed groles count = .error answer) :
    (answer.1 = true ∧ groles.get guid &&& role ≠ 0 ∧
        check (groles.without guid role) = answer) ∨
      (answer = (false, groles) ∧ groles.get guid = role ∧ count = needed) := by
  unfold checkRole at h
  simp only at h
  split_ifs at h with h₁ h₂ h₃
  · cases hc : check (groles.without guid role) with
    | mk found left =>
      cases found with
      | true =>
        rw [hc] at h
        cases h
        exact .inl ⟨rfl, h₁, rfl⟩
      | false => rw [hc] at h; cases h
  · push Not at h₂
    cases h
    exact .inr ⟨rfl, h₂, h₃⟩

/-- The counts after a player with one selected role. -/
def RoleCounts.add (counts : RoleCounts) (selected : LfgRoles) : RoleCounts where
  damage := counts.damage + if selected = playerRoleDamage then 1 else 0
  healer := counts.healer + if selected = playerRoleHealer then 1 else 0
  tank := counts.tank + if selected = playerRoleTank then 1 else 0

theorem countRoles_append (guids : List Guid) (guid : Guid) (given : Guid → LfgRoles) :
    countRoles (guids ++ [guid]) given = (countRoles guids given).add (given guid) := by
  simp [countRoles, RoleCounts.add, List.countP_append, List.countP_cons]

theorem checkPlayer_ok (hback : FailsBack check) (hguid : guid ∈ groles.keys)
    {counts : RoleCounts} {groles' : LfgRolesMap} {counts' : RoleCounts}
    (h : checkPlayer check guid groles counts = .ok (groles', counts')) :
    groles' = groles ∧ counts' = counts.add (groles.get guid) ∧
      (counts.Fit → counts'.Fit) ∧ ∀ role, SingleRole role → groles.get guid &&& role ≠ 0 →
        groles.get guid ≠ role → (check (groles.without guid role)).1 = false := by
  unfold checkPlayer at h
  split_ifs at h with hnone
  · cases h
  · cases hd : checkRole check guid playerRoleDamage lfgDpsNeeded groles counts.damage with
    | error answer => rw [hd] at h; cases h
    | ok next =>
      obtain ⟨groles₁, damage⟩ := next
      obtain ⟨rfl, rfl, hd₁, hd₂⟩ := checkRole_ok hback hguid (.inr (.inr rfl)) hd
      cases hh : checkRole check guid playerRoleHealer lfgHealersNeeded groles₁ counts.healer with
      | error answer => simp [hd, hh, bind, Except.bind] at h
      | ok next =>
        obtain ⟨groles₂, healer⟩ := next
        obtain ⟨rfl, rfl, hh₁, hh₂⟩ := checkRole_ok hback hguid (.inr (.inl rfl)) hh
        cases ht : checkRole check guid playerRoleTank lfgTanksNeeded groles₂ counts.tank with
        | error answer => simp [hd, hh, ht, bind, Except.bind] at h
        | ok next =>
          obtain ⟨groles₃, tank⟩ := next
          obtain ⟨rfl, rfl, ht₁, ht₂⟩ := checkRole_ok hback hguid (.inl rfl) ht
          simp only [hd, hh, ht, bind, Except.bind, pure, Except.pure] at h
          obtain ⟨rfl, rfl⟩ := Prod.mk.inj (Except.ok.inj h)
          refine ⟨rfl, rfl, fun hfit => ?_, ?_⟩
          · obtain ⟨hdl, hhl, htl⟩ := hfit
            constructor <;> simp only <;> split_ifs with heq
            · exact lt_of_le_of_ne hdl (hd₁ heq)
            · exact hdl
            · exact lt_of_le_of_ne hhl (hh₁ heq)
            · exact hhl
            · exact lt_of_le_of_ne htl (ht₁ heq)
            · exact htl
          · rintro role (rfl | rfl | rfl)
            · exact ht₂
            · exact hh₂
            · exact hd₂

/-- The walk ends at a player: with the answer for the group without one of the player's roles,
or because the player has none, or only one that is taken. -/
theorem checkPlayer_error (hback : FailsBack check) (hguid : guid ∈ groles.keys)
    {counts : RoleCounts} {answer : Bool × LfgRolesMap}
    (h : checkPlayer check guid groles counts = .error answer) :
    (answer.1 = true ∧ ∃ role, SingleRole role ∧ groles.get guid &&& role ≠ 0 ∧
        check (groles.without guid role) = answer) ∨
      (answer = (false, groles) ∧ (groles.get guid = 0 ∨
        ∃ role, SingleRole role ∧ groles.get guid = role ∧
          ((role = playerRoleDamage ∧ counts.damage = lfgDpsNeeded) ∨
           (role = playerRoleHealer ∧ counts.healer = lfgHealersNeeded) ∨
           (role = playerRoleTank ∧ counts.tank = lfgTanksNeeded)))) := by
  unfold checkPlayer at h
  split_ifs at h with hnone
  · cases h
    exact .inr ⟨rfl, .inl hnone⟩
  · have hsd : SingleRole playerRoleDamage := .inr (.inr rfl)
    have hsh : SingleRole playerRoleHealer := .inr (.inl rfl)
    have hst : SingleRole playerRoleTank := .inl rfl
    cases hd : checkRole check guid playerRoleDamage lfgDpsNeeded groles counts.damage with
    | error answer' =>
      obtain rfl : answer' = answer := by
        simpa [hd, bind, Except.bind, pure, Except.pure] using h
      rcases checkRole_error hd with ⟨htrue, hs, hc⟩ | ⟨hfalse, heq, hcount⟩
      · exact .inl ⟨htrue, _, hsd, hs, hc⟩
      · exact .inr ⟨hfalse, .inr ⟨_, hsd, heq, .inl ⟨rfl, hcount⟩⟩⟩
    | ok next =>
      obtain ⟨groles₁, damage⟩ := next
      obtain ⟨rfl, rfl, -, -⟩ := checkRole_ok hback hguid hsd hd
      cases hh : checkRole check guid playerRoleHealer lfgHealersNeeded groles₁ counts.healer with
      | error answer' =>
        obtain rfl : answer' = answer := by
          simpa [hd, hh, bind, Except.bind, pure, Except.pure] using h
        rcases checkRole_error hh with ⟨htrue, hs, hc⟩ | ⟨hfalse, heq, hcount⟩
        · exact .inl ⟨htrue, _, hsh, hs, hc⟩
        · exact .inr ⟨hfalse, .inr ⟨_, hsh, heq, .inr (.inl ⟨rfl, hcount⟩)⟩⟩
      | ok next =>
        obtain ⟨groles₂, healer⟩ := next
        obtain ⟨rfl, rfl, -, -⟩ := checkRole_ok hback hguid hsh hh
        cases ht : checkRole check guid playerRoleTank lfgTanksNeeded groles₂ counts.tank with
        | error answer' =>
          obtain rfl : answer' = answer := by
            simpa [hd, hh, ht, bind, Except.bind, pure, Except.pure] using h
          rcases checkRole_error ht with ⟨htrue, hs, hc⟩ | ⟨hfalse, heq, hcount⟩
          · exact .inl ⟨htrue, _, hst, hs, hc⟩
          · exact .inr ⟨hfalse, .inr ⟨_, hst, heq, .inr (.inr ⟨rfl, hcount⟩)⟩⟩
        | ok next => simp [hd, hh, ht, bind, Except.bind, pure, Except.pure] at h

end Steps

/-! ## The walk, and the search -/

section Search

variable {check} {guid : Guid} {groles : LfgRolesMap} {given : Guid → LfgRoles}

theorem SuitsRoles.of_without {role : LfgRoles} (hguid : guid ∈ groles.keys)
    (hr : SingleRole role) (hs : groles.get guid &&& role ≠ 0)
    (h : SuitsRoles (groles.without guid role) given) : SuitsRoles groles given := by
  obtain ⟨hsingle, hsel, hplain, hfit⟩ := h
  rw [without_keys hguid] at hsingle hsel hplain hfit
  refine ⟨hsingle, fun j hj => ?_, fun j hj => ?_, hfit⟩
  · by_cases hjg : j = guid
    · subst hjg
      exact and_of_sub_and hr hs (by simpa using hsel j hj)
    · rw [← without_get_of_ne hjg role]
      exact hsel j hj
  · by_cases hjg : j = guid
    · subst hjg
      rw [← sub_and_plain hr hs]
      simpa using hplain j hj
    · rw [← without_get_of_ne hjg role]
      exact hplain j hj

theorem SuitsRoles.without {role : LfgRoles} (hguid : guid ∈ groles.keys) (hr : SingleRole role)
    (hs : groles.get guid &&& role ≠ 0) (hne : role ≠ given guid) (h : SuitsRoles groles given) :
    SuitsRoles (groles.without guid role) given := by
  obtain ⟨hsingle, hsel, hplain, hfit⟩ := h
  constructor
  all_goals rw [without_keys hguid]
  · exact hsingle
  · rintro j hj
    by_cases hjg : j = guid
    · subst hjg
      rw [without_get_self, sub_and_of_ne hr (hsingle j hj) hne hs]
      exact hsel j hj
    · rw [without_get_of_ne hjg]
      exact hsel j hj
  · rintro j hj
    by_cases hjg : j = guid
    · subst hjg
      rw [without_get_self, sub_and_plain hr hs]
      exact hplain j hj
    · rw [without_get_of_ne hjg]
      exact hplain j hj
  · exact hfit

theorem countRoles_sum (guids : List Guid) (given : Guid → LfgRoles) :
    (countRoles guids given).tank + (countRoles guids given).healer +
      (countRoles guids given).damage = guids.countP fun guid => SingleRole (given guid) := by
  simp only [countRoles]
  induction guids with
  | nil => rfl
  | cons guid guids ih =>
    simp only [List.countP_cons, decide_eq_true_eq]
    have hstep : ((if given guid = playerRoleTank then 1 else 0) +
        (if given guid = playerRoleHealer then 1 else 0) +
        if given guid = playerRoleDamage then 1 else 0) =
          if SingleRole (given guid) then 1 else 0 := by
      generalize given guid = role
      revert role
      decide +kernel
    omega

variable {rest : List Guid} {counts : RoleCounts}

theorem checkPlayers_failsBack (hback : FailsBack check) (hrest : ∀ guid ∈ rest, guid ∈ groles.keys)
    (h : (checkPlayers check rest groles counts).1 = false) :
    (checkPlayers check rest groles counts).2 = groles := by
  induction rest generalizing counts with
  | nil => rfl
  | cons guid rest ih =>
    have hguid := hrest guid List.mem_cons_self
    simp only [checkPlayers] at h ⊢
    cases hp : checkPlayer check guid groles counts with
    | error answer =>
      rw [hp] at h
      rcases checkPlayer_error hback hguid hp with ⟨htrue, -⟩ | ⟨rfl, -⟩
      · rw [htrue] at h
        cases h
      · rfl
    | ok next =>
      obtain ⟨rfl, -⟩ := checkPlayer_ok hback hguid hp
      rw [hp] at h
      exact ih (fun j hj => hrest j (List.mem_cons_of_mem _ hj)) h

/-- **The walk is sound**: what it gives suits the selections. -/
theorem checkPlayers_sound (hback : FailsBack check)
    (hcheck : ∀ groles groles', check groles = (true, groles') → groles.size < 2 ^ 8 →
      groles'.keys = groles.keys ∧ SuitsRoles groles groles'.get)
    (hsize : groles.size < 2 ^ 8) :
    ∀ done, groles.keys = done ++ rest → counts = countRoles done groles.get → counts.Fit →
      ∀ groles', checkPlayers check rest groles counts = (true, groles') →
        groles'.keys = groles.keys ∧ SuitsRoles groles groles'.get := by
  induction rest generalizing counts with
  | nil =>
    rintro done hkeys rfl hfit groles' h
    obtain ⟨hsum, rfl⟩ := Prod.mk.inj h
    rw [List.append_nil] at hkeys
    rw [beq_iff_eq, countRoles_sum, Nat.mod_eq_of_lt hsize, ← length_keys,
      hkeys] at hsum
    have hall : ∀ guid ∈ groles.keys, SingleRole (groles.get guid) := by
      simpa [hkeys] using List.countP_eq_length.mp hsum
    refine ⟨rfl, hall, fun j _ => BitVec.and_self, fun j hj => (hall j hj).plain, ?_⟩
    rwa [hkeys]
  | cons guid rest ih =>
    rintro done hkeys hcounts hfit groles' h
    have hguid : guid ∈ groles.keys := by simp [hkeys]
    simp only [checkPlayers] at h
    cases hp : checkPlayer check guid groles counts with
    | error answer =>
      rw [hp] at h
      obtain rfl : answer = (true, groles') := h
      rcases checkPlayer_error hback hguid hp with ⟨-, role, hr, hs, hc⟩ | ⟨hfalse, -⟩
      · obtain ⟨hk, hsuits⟩ := hcheck _ _ hc (by rwa [without_size hguid])
        exact ⟨hk.trans (without_keys hguid role), hsuits.of_without hguid hr hs⟩
      · cases hfalse
    | ok next =>
      obtain ⟨groles₁, counts₁⟩ := next
      obtain ⟨rfl, rfl, hfit₁, -⟩ := checkPlayer_ok hback hguid hp
      rw [hp] at h
      refine ih (done ++ [guid]) (by simp [hkeys]) ?_ (hfit₁ hfit) groles' h
      rw [countRoles_append, hcounts]

theorem checkPlayers_complete (hback : FailsBack check)
    (hcheck : ∀ groles', rolesSum groles' < rolesSum groles → groles'.size = groles.size →
      SuitsRoles groles' given → (check groles').1 = true)
    (hsize : groles.size < 2 ^ 8) (hsuits : SuitsRoles groles given) :
    ∀ done, groles.keys = done ++ rest → counts = countRoles done given →
      (checkPlayers check rest groles counts).1 = true := by
  induction rest generalizing counts with
  | nil =>
    rintro done hkeys rfl
    rw [List.append_nil] at hkeys
    simp only [checkPlayers, beq_iff_eq]
    rw [countRoles_sum, Nat.mod_eq_of_lt hsize, ← length_keys, ← hkeys,
      List.countP_eq_length]
    simpa using hsuits.single
  | cons guid rest ih =>
    rintro done hkeys hcounts
    have hguid : guid ∈ groles.keys := by simp [hkeys]
    have hsingle := hsuits.single guid hguid
    have hsel := hsuits.selected guid hguid
    simp only [checkPlayers]
    cases hp : checkPlayer check guid groles counts with
    | error answer =>
      rcases checkPlayer_error hback hguid hp with ⟨htrue, -⟩ | ⟨-, hnone | hfull⟩
      · exact htrue
      · have hzero : (0 : LfgRoles) &&& given guid = 0 := BitVec.zero_and
        rw [hnone, hzero] at hsel
        exact absurd hsel.symm hsingle.ne_zero
      · -- the given role is taken `needed` times before this player, and once here
        exfalso
        obtain ⟨role, hr, heq, hcount⟩ := hfull
        obtain ⟨hdl, hhl, htl⟩ := hsuits.fit
        have hgiven : given guid = role := by
          rw [heq] at hsel
          revert hsel
          generalize given guid = r at hsingle
          rcases hr with rfl | rfl | rfl <;> rcases hsingle with rfl | rfl | rfl <;> decide
        rw [hkeys] at hdl hhl htl
        simp only [countRoles, List.countP_append, List.countP_cons, hgiven,
          decide_eq_true_eq] at hdl hhl htl
        subst hcounts
        simp only [countRoles] at hcount
        rcases hcount with ⟨rfl, hcount⟩ | ⟨rfl, hcount⟩ | ⟨rfl, hcount⟩
        · rw [hcount, if_pos rfl] at hdl
          omega
        · rw [hcount, if_pos rfl] at hhl
          omega
        · rw [hcount, if_pos rfl] at htl
          omega
    | ok next =>
      obtain ⟨groles₁, counts₁⟩ := next
      obtain ⟨rfl, rfl, -, hfailed⟩ := checkPlayer_ok hback hguid hp
      have heq : groles₁.get guid = given guid := by
        by_contra hne
        obtain ⟨role, hr, hrne, hs⟩ :=
          exists_other_role hsingle hsel (hsuits.plain guid hguid) hne
        have hrself : groles₁.get guid ≠ role := by
          rintro rfl
          generalize given guid = r at hsingle hsel hrne
          generalize groles₁.get guid = role at hr hsel hrne
          revert hsel hrne
          rcases hr with rfl | rfl | rfl <;> rcases hsingle with rfl | rfl | rfl <;> decide
        have := hcheck _ (rolesSum_without hguid hr hs) (without_size hguid role)
          (hsuits.without hguid hr hs hrne)
        rw [hfailed role hr hs hrself] at this
        cases this
      refine ih (done ++ [guid]) (by simp [hkeys]) ?_
      rw [countRoles_append, hcounts, heq]

theorem checkSelectedRoles_failsBack (depth : ℕ) : FailsBack (checkSelectedRoles depth) := by
  induction depth with
  | zero => exact fun _ _ => rfl
  | succ depth ih =>
    rintro groles h
    simp only [checkSelectedRoles] at h ⊢
    split_ifs at h ⊢ with hsize
    · rfl
    · exact checkPlayers_failsBack ih (fun _ hj => hj) h

theorem checkSelectedRoles_sound (depth : ℕ) : ∀ groles groles' : LfgRolesMap,
    checkSelectedRoles depth groles = (true, groles') → groles.size < 2 ^ 8 →
      groles'.keys = groles.keys ∧ SuitsRoles groles groles'.get := by
  induction depth with
  | zero =>
    rintro groles groles' h
    cases h
  | succ depth ih =>
    rintro groles groles' h hsize
    simp only [checkSelectedRoles] at h
    split_ifs at h
    · cases h
    refine checkPlayers_sound (checkSelectedRoles_failsBack depth) ih hsize [] rfl rfl ?_ groles' h
    exact ⟨Nat.zero_le _, Nat.zero_le _, Nat.zero_le _⟩

theorem checkSelectedRoles_complete (depth : ℕ) : ∀ groles : LfgRolesMap,
    rolesSum groles < depth → groles.size ≠ 0 → groles.size < 2 ^ 8 → SuitsRoles groles given →
      (checkSelectedRoles depth groles).1 = true := by
  induction depth with
  | zero => exact fun groles h => absurd h (Nat.not_lt_zero _)
  | succ depth ih =>
    rintro groles hsum hsize hsize' hsuits
    simp only [checkSelectedRoles, if_neg hsize]
    refine checkPlayers_complete (checkSelectedRoles_failsBack depth) ?_ hsize' hsuits [] rfl rfl
    rintro groles' hless hsame hsuits'
    exact ih groles' (by omega) (hsame ▸ hsize) (hsame ▸ hsize') hsuits'

@[simp] theorem removeLeaderFlag_keys (groles : LfgRolesMap) :
    (removeLeaderFlag groles).keys = groles.keys := keys_mapVals _ _

@[simp] theorem removeLeaderFlag_size (groles : LfgRolesMap) :
    (removeLeaderFlag groles).size = groles.size := by
  rw [← length_keys, removeLeaderFlag_keys, length_keys]

theorem checkGroupRoles_sound {groles' : LfgRolesMap} (hsize : groles.size < 2 ^ 8)
    (h : checkGroupRoles groles = (true, groles')) :
    groles'.keys = groles.keys ∧ SuitsRoles (removeLeaderFlag groles) groles'.get := by
  rw [← removeLeaderFlag_keys groles]
  exact checkSelectedRoles_sound _ _ _ h (by rwa [removeLeaderFlag_size])

theorem checkGroupRoles_iff (hsize : groles.size < 2 ^ 8) :
    (checkGroupRoles groles).1 = true ↔
      groles.size ≠ 0 ∧ ∃ given, SuitsRoles (removeLeaderFlag groles) given := by
  constructor
  · intro h
    refine ⟨fun hempty => ?_, _, (checkGroupRoles_sound hsize (Prod.ext h rfl)).2⟩
    rw [checkGroupRoles, checkSelectedRoles, if_pos (by simpa using hempty)] at h
    cases h
  · rintro ⟨hempty, given, hsuits⟩
    exact checkSelectedRoles_complete _ _ (Nat.lt_succ_self _) (by simpa using hempty)
      (by simpa using hsize) hsuits

end Search

end TeraCore
