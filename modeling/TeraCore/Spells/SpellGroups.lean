import TeraCore.Commons.OrderedSet
import TeraCore.Commons.Visits
import TeraCore.Spells.SpellRanks

/-!
# Spell groups

A spell group has spells and other groups in it.  An entry of a group is one number: a spell, or the
negated id of a nested group.  The loader keeps the entries with spells and groups that exist, and
collects for every group the spells that can be reached from it; the groups may be nested in a
circle.

Two spells that have a group in common follow the rule of that group.  A group does not count when a
group that is nested directly in it has both spells, too.  The groups are searched from the smallest
id on, and the first rule that is not the default one is taken.

## Main definitions

* `getSetOfSpellsInSpellGroup`: the spells that are found in a group
* `loadSpellGroups`, `loadSpellGroupStackRules`: the loaders
* `checkSpellGroupStackRules`: the rule for two spells
* `StackRule`: the rules that two spells may follow

## Main results

* `setOfSpells_returns`: the search of a group ends with the spells that can be reached from it
* `checkSpellGroupStackRules_spec`: what the rule for two spells is
-/

namespace TeraCore.Spells

open Commons

/-! ## The tables -/

abbrev SpellGroup : Type := ℕ

def spellGroupCoreRangeMax : ℕ := 5

def spellGroupDbRangeMin : ℕ := 1000

inductive SpellGroupStackRule
  | default
  | exclusive
  | exclusiveFromSameCaster
  | exclusiveSameEffect
  deriving DecidableEq

/-- The rule with this number, if it is less than `SPELL_GROUP_STACK_RULE_MAX`. -/
def SpellGroupStackRule.ofNat? : ℕ → Option SpellGroupStackRule
  | 0 => some .default
  | 1 => some .exclusive
  | 2 => some .exclusiveFromSameCaster
  | 3 => some .exclusiveSameEffect
  | _ => none

/-- A row of `spell_group`: the spell is an `int32`, negative for a nested group. -/
structure SpellGroupRow where
  id : SpellGroup
  spell_id : BitVec 32
  deriving DecidableEq

/-- A row of `spell_group_stack_rules`. -/
structure SpellGroupStackRow where
  group_id : SpellGroup
  stack_rule : BitVec 8
  deriving DecidableEq

/-- `mSpellGroupSpell`, as its entries in the order of insertion. -/
abbrev SpellGroupSpellMap : Type := List (SpellGroup × BitVec 32)

/-- `mSpellSpellGroup`, as the groups of each spell in the order of insertion. -/
abbrev SpellSpellGroupMap : Type := SpellId → List SpellGroup

/-- `mSpellGroupStack` -/
abbrev SpellGroupStackMap : Type := SpellGroup → Option SpellGroupStackRule

/-- `abs` of a negative entry -/
def nestedGroup (spell : BitVec 32) : SpellGroup := spell.toInt.natAbs

variable (groupSpell : SpellGroupSpellMap) (group_id : SpellGroup)

def getSpellGroupSpellMapBounds : List (BitVec 32) :=
  (groupSpell.filter (·.1 = group_id)).map (·.2)

/-- The entries of a group, nested groups and spells told apart. -/
def groupContent : List (SpellGroup ⊕ SpellId) :=
  (getSpellGroupSpellMapBounds groupSpell group_id).map fun spell =>
    if spell.toInt < 0 then .inl (nestedGroup spell) else .inr spell

/-- **`GetSetOfSpellsInSpellGroup`**, if the calls go no deeper than this. -/
def getSetOfSpellsInSpellGroup (groupSpell : SpellGroupSpellMap) (depth : ℕ)
    (group_id : SpellGroup) : Option (Finset SpellId) :=
  (visit (groupContent groupSpell) depth ⟨∅, ∅⟩ group_id).map (·.found)

/-- The set that comes back; a level for each entry, and two, are deep enough. -/
def setOfSpells : Finset SpellId :=
  (getSetOfSpellsInSpellGroup groupSpell (groupSpell.length + 2) group_id).getD ∅

section Loader

variable (exists_ : SpellId → Bool) (chains : SpellChainMap)

def getRank (spell : SpellId) : ℕ :=
  match chains spell with
  | some node => node.rank
  | none => 1

def inCoreRange (row : SpellGroupRow) : Bool :=
  row.id ≤ spellGroupDbRangeMin && spellGroupCoreRangeMax ≤ row.id

/-- Does the entry stay? -/
def keepsEntry (groups : OrderedSet SpellGroup) (spell : BitVec 32) : Bool :=
  if spell.toInt < 0 then decide (nestedGroup spell ∈ groups)
  else (getSpellInfo exists_ spell).isSome && !decide (1 < getRank chains spell)

/-- The loop over the groups, which fills the groups of every spell. -/
def fillSpellSpellGroup (groupSpell : SpellGroupSpellMap) :
    List SpellGroup → SpellSpellGroupMap → SpellSpellGroupMap
  | [], spellGroup => spellGroup
  | group :: groups, spellGroup =>
    let spells := setOfSpells groupSpell group
    fillSpellSpellGroup groupSpell groups fun spell =>
      if spell ∈ spells then spellGroup spell ++ [group] else spellGroup spell

def loadSpellGroups (rows : List SpellGroupRow) : SpellGroupSpellMap × SpellSpellGroupMap :=
  let rows := rows.filter (!inCoreRange ·)
  let groups := OrderedSet.ofList (rows.map (·.id))
  let groupSpell := (rows.map fun row => (row.id, row.spell_id)).filter fun entry =>
    keepsEntry exists_ chains groups entry.2
  (groupSpell, fillSpellSpellGroup groupSpell groups.elems fun _ => [])

end Loader

def loadSpellGroupStackRules (groupSpell : SpellGroupSpellMap) (rows : List SpellGroupStackRow) :
    SpellGroupStackMap :=
  rows.foldl (fun stack row =>
    match SpellGroupStackRule.ofNat? row.stack_rule.toNat with
    | none => stack
    | some rule =>
      if getSpellGroupSpellMapBounds groupSpell row.group_id = [] then stack
      else Function.update stack row.group_id (some rule)) fun _ => none

/-! ## The rule for two spells -/

/-- What `SpellMgr` knows of the groups. -/
structure SpellGroups where
  chains : SpellChainMap
  groupSpell : SpellGroupSpellMap
  spellGroup : SpellSpellGroupMap
  stack : SpellGroupStackMap

namespace SpellGroups

/-- The tables after the loaders have run. -/
def load (exists_ : SpellId → Bool) (chains : SpellChainMap) (rows : List SpellGroupRow)
    (stackRows : List SpellGroupStackRow) : SpellGroups :=
  let (groupSpell, spellGroup) := loadSpellGroups exists_ chains rows
  { chains := chains
    groupSpell := groupSpell
    spellGroup := spellGroup
    stack := loadSpellGroupStackRules groupSpell stackRows }

variable (t : SpellGroups)

def getFirstRankSpell (spell : SpellId) : SpellId := getFirstSpellInChain t.chains spell

def getSpellSpellGroupMapBounds (spell_id : SpellId) : List SpellGroup :=
  t.spellGroup (getFirstSpellInChain t.chains spell_id)

def isSpellMemberOfSpellGroup (spellid : SpellId) (groupid : SpellGroup) : Bool :=
  (t.getSpellSpellGroupMapBounds spellid).any (· == groupid)

/-- The loop over the entries of a group: is there a nested one that has both spells? -/
def nestedHasBoth (spellid_1 spellid_2 : SpellId) (group : SpellGroup) : Bool :=
  (getSpellGroupSpellMapBounds t.groupSpell group).any fun spell =>
    decide (spell.toInt < 0) && (t.isSpellMemberOfSpellGroup spellid_1 (nestedGroup spell) &&
      t.isSpellMemberOfSpellGroup spellid_2 (nestedGroup spell))

/-- The loop that finds the groups that count. -/
def commonGroups (spellid_1 spellid_2 : SpellId) : OrderedSet SpellGroup :=
  .ofList ((t.getSpellSpellGroupMapBounds spellid_1).filter fun group =>
    t.isSpellMemberOfSpellGroup spellid_2 group && !t.nestedHasBoth spellid_1 spellid_2 group)

/-- The loop over the groups that count: the rule so far, and the groups that are left. -/
def findRule (stack : SpellGroupStackMap) :
    List SpellGroup → SpellGroupStackRule → SpellGroupStackRule
  | [], rule => rule
  | group :: groups, rule =>
    let rule := (stack group).getD rule
    if rule ≠ .default then rule else findRule stack groups rule

def checkSpellGroupStackRules (spellInfo1 spellInfo2 : SpellId) : SpellGroupStackRule :=
  let spellid_1 := t.getFirstRankSpell spellInfo1
  let spellid_2 := t.getFirstRankSpell spellInfo2
  if spellid_1 = spellid_2 then .default
  else findRule t.stack (t.commonGroups spellid_1 spellid_2).elems .default

end SpellGroups

/-! ## What a group has in it -/

/-- **A group has the spell in it**, as an entry of its own or through the groups that are nested in
it. -/
def HasSpell (groupSpell : SpellGroupSpellMap) (group : SpellGroup) (spell : SpellId) : Prop :=
  ∃ nested, LeadsOnTo (groupContent groupSpell) group nested ∧
    .inr spell ∈ groupContent groupSpell nested

variable {groupSpell} {group nested : SpellGroup} {spell : SpellId}

theorem mem_bounds {entry : BitVec 32} :
    entry ∈ getSpellGroupSpellMapBounds groupSpell group ↔ (group, entry) ∈ groupSpell := by
  simp [getSpellGroupSpellMapBounds]

theorem leadsTo_iff : LeadsTo (groupContent groupSpell) group nested ↔
    ∃ entry ∈ getSpellGroupSpellMapBounds groupSpell group,
      entry.toInt < 0 ∧ nestedGroup entry = nested := by
  simp only [LeadsTo, groupContent, List.mem_map]
  refine exists_congr fun entry => and_congr_right fun _ => ?_
  split_ifs with hneg
  · simp [hneg]
  · simp [hneg]

theorem leadsTo_mem (h : LeadsTo (groupContent groupSpell) group nested) :
    nested ∈ (groupSpell.map fun entry => nestedGroup entry.2).toFinset := by
  obtain ⟨entry, hentry, _, rfl⟩ := leadsTo_iff.mp h
  rw [List.mem_toFinset, List.mem_map]
  exact ⟨(group, entry), mem_bounds.mp hentry, rfl⟩

/-- **The search ends**, and what it has found are the spells that the group has in it. -/
theorem setOfSpells_returns (groupSpell : SpellGroupSpellMap) (group : SpellGroup) :
    Returns (getSetOfSpellsInSpellGroup groupSpell · group) (setOfSpells groupSpell group) ∧
      ∀ spell, spell ∈ setOfSpells groupSpell group ↔ HasSpell groupSpell group spell := by
  obtain ⟨s', hdepth, hfound⟩ := visit_returns
    (fun a b (h : LeadsTo (groupContent groupSpell) a b) => leadsTo_mem h) group
  have hcard : (insert group
      (groupSpell.map fun entry => nestedGroup entry.2).toFinset).card < groupSpell.length + 2 := by
    have hinsert := Finset.card_insert_le group
      (groupSpell.map fun entry => nestedGroup entry.2).toFinset
    have hlist := List.toFinset_card_le (groupSpell.map fun entry => nestedGroup entry.2)
    rw [List.length_map] at hlist
    omega
  have hset : setOfSpells groupSpell group = s'.found := by
    simp [setOfSpells, getSetOfSpellsInSpellGroup, hdepth _ hcard]
  rw [hset]
  refine ⟨⟨groupSpell.length + 2, fun depth hle => ?_⟩, fun spell => hfound spell⟩
  simp [getSetOfSpellsInSpellGroup, hdepth depth (hcard.trans_le hle)]

theorem mem_setOfSpells : spell ∈ setOfSpells groupSpell group ↔ HasSpell groupSpell group spell :=
  (setOfSpells_returns groupSpell group).2 spell

theorem exists_entry (h : HasSpell groupSpell group spell) :
    ∃ entry, (group, entry) ∈ groupSpell := by
  obtain ⟨nested, hreach, hmem⟩ := h
  have hcontent : groupContent groupSpell group ≠ [] := by
    rcases hreach.cases_head with rfl | ⟨next, hstep, _⟩
    · exact List.ne_nil_of_mem hmem
    · exact List.ne_nil_of_mem hstep
  have hbounds : getSpellGroupSpellMapBounds groupSpell group ≠ [] := by
    simpa [groupContent] using hcontent
  obtain ⟨entry, hentry⟩ := List.exists_mem_of_ne_nil _ hbounds
  exact ⟨entry, mem_bounds.mp hentry⟩

/-! ## What the loaders fill -/

theorem mem_fillSpellSpellGroup {groups : List SpellGroup} {spellGroup : SpellSpellGroupMap} :
    group ∈ fillSpellSpellGroup groupSpell groups spellGroup spell ↔
      group ∈ spellGroup spell ∨ (group ∈ groups ∧ HasSpell groupSpell group spell) := by
  induction groups generalizing spellGroup with
  | nil => simp [fillSpellSpellGroup]
  | cons first groups ih =>
    rw [fillSpellSpellGroup, ih, ← mem_setOfSpells, List.mem_cons]
    split_ifs with hfirst
    · rw [List.mem_append, List.mem_singleton]
      grind
    · grind

theorem mem_spellGroup (exists_ : SpellId → Bool) (chains : SpellChainMap)
    (rows : List SpellGroupRow) (stackRows : List SpellGroupStackRow) (spell : SpellId)
    (group : SpellGroup) :
    group ∈ (SpellGroups.load exists_ chains rows stackRows).spellGroup spell ↔
      HasSpell (SpellGroups.load exists_ chains rows stackRows).groupSpell group spell := by
  simp only [SpellGroups.load, loadSpellGroups]
  rw [mem_fillSpellSpellGroup]
  refine ⟨fun h => (h.resolve_left List.not_mem_nil).2, fun h => .inr ⟨?_, h⟩⟩
  -- what has an entry is one of the groups
  obtain ⟨entry, hentry⟩ := exists_entry h
  obtain ⟨row, hrow, heq⟩ := List.mem_map.mp (List.mem_filter.mp hentry).1
  have hid : row.id = group := congrArg Prod.fst heq
  rw [OrderedSet.mem_elems, OrderedSet.mem_ofList, List.mem_map]
  exact ⟨row, hrow, hid⟩

/-! ## Which rule it is -/

/-- **The group counts for two spells**: it has both in it, and no group that is nested directly in
it has both.  A spell is in the groups that its first rank is in. -/
def Counts (t : SpellGroups) (a b : SpellId) (group : SpellGroup) : Prop :=
  (HasSpell t.groupSpell group (t.getFirstRankSpell a) ∧
      HasSpell t.groupSpell group (t.getFirstRankSpell b)) ∧
    ∀ nested, LeadsTo (groupContent t.groupSpell) group nested →
      ¬(HasSpell t.groupSpell nested (t.getFirstRankSpell a) ∧
        HasSpell t.groupSpell nested (t.getFirstRankSpell b))

/-- **The rules that two spells may follow**: the one of a group that counts, or the default one if
none of these groups has a rule. -/
def StackRule (t : SpellGroups) (a b : SpellId) (rule : SpellGroupStackRule) : Prop :=
  (∃ group, Counts t a b group ∧ t.stack group = some rule) ∨
    (rule = .default ∧ ∀ group, Counts t a b group → t.stack group = none)

namespace SpellGroups

variable {t : SpellGroups} {a b : SpellId}

/-- The groups of every spell are the ones that have it in them. -/
def Filled (t : SpellGroups) : Prop :=
  ∀ spell group, group ∈ t.spellGroup spell ↔ HasSpell t.groupSpell group spell

theorem isSpellMemberOfSpellGroup_iff (ht : t.Filled) :
    t.isSpellMemberOfSpellGroup spell group = true ↔
      HasSpell t.groupSpell group (t.getFirstRankSpell spell) := by
  rw [getFirstRankSpell, ← ht]
  simp [isSpellMemberOfSpellGroup, getSpellSpellGroupMapBounds]

theorem nestedHasBoth_iff (ht : t.Filled) : t.nestedHasBoth a b group = true ↔
    ∃ nested, LeadsTo (groupContent t.groupSpell) group nested ∧
      HasSpell t.groupSpell nested (t.getFirstRankSpell a) ∧
        HasSpell t.groupSpell nested (t.getFirstRankSpell b) := by
  simp only [nestedHasBoth, List.any_eq_true, Bool.and_eq_true, decide_eq_true_eq,
    isSpellMemberOfSpellGroup_iff ht, leadsTo_iff]
  constructor
  · rintro ⟨entry, hentry, hneg, hboth⟩
    exact ⟨nestedGroup entry, ⟨entry, hentry, hneg, rfl⟩, hboth⟩
  · rintro ⟨_, ⟨entry, hentry, hneg, rfl⟩, hboth⟩
    exact ⟨entry, hentry, hneg, hboth⟩

theorem mem_commonGroups (ht : t.Filled) : group ∈ t.commonGroups a b ↔ Counts t a b group := by
  have hbounds : group ∈ t.getSpellSpellGroupMapBounds a ↔
      HasSpell t.groupSpell group (t.getFirstRankSpell a) := ht _ _
  rw [commonGroups, OrderedSet.mem_ofList, List.mem_filter, hbounds, Bool.and_eq_true,
    isSpellMemberOfSpellGroup_iff ht, Bool.not_eq_true', ← Bool.not_eq_true, nestedHasBoth_iff ht,
    Counts, not_exists, and_assoc]
  simp only [not_and]

theorem counts_comm : Counts t a b group ↔ Counts t b a group := by
  refine and_congr and_comm (forall_congr' fun nested => forall_congr' fun _ => ?_)
  rw [and_comm]

theorem commonGroups_comm (ht : t.Filled) (a b : SpellId) :
    t.commonGroups a b = t.commonGroups b a := by
  apply OrderedSet.ext
  intro group
  rw [mem_commonGroups ht, mem_commonGroups ht, counts_comm]

/-- The rule that the loop comes to: the one of a group, unless none of them has one. -/
theorem findRule_spec (stack : SpellGroupStackMap) (groups : List SpellGroup) :
    (∃ group ∈ groups, stack group = some (findRule stack groups .default)) ∨
      (findRule stack groups .default = .default ∧ ∀ group ∈ groups, stack group = none) := by
  induction groups with
  | nil => exact .inr ⟨rfl, by simp⟩
  | cons group groups ih =>
    cases hrule : stack group with
    | none =>
      have hstep : findRule stack (group :: groups) .default = findRule stack groups .default := by
        simp [findRule, hrule]
      rw [hstep]
      rcases ih with ⟨other, hmem, heq⟩ | ⟨hdefault, hnone⟩
      · exact .inl ⟨other, List.mem_cons_of_mem _ hmem, heq⟩
      · exact .inr ⟨hdefault, List.forall_mem_cons.mpr ⟨hrule, hnone⟩⟩
    | some rule =>
      refine .inl ?_
      by_cases hdefault : rule = .default
      · -- the default rule does not stop the loop
        have hstep : findRule stack (group :: groups) .default =
            findRule stack groups .default := by
          simp [findRule, hrule, hdefault]
        rw [hstep]
        rcases ih with ⟨other, hmem, heq⟩ | ⟨hend, _⟩
        · exact ⟨other, List.mem_cons_of_mem _ hmem, heq⟩
        · exact ⟨group, List.mem_cons_self, by rw [hrule, hend, hdefault]⟩
      · exact ⟨group, List.mem_cons_self, by simp [findRule, hrule, hdefault]⟩

theorem checkSpellGroupStackRules_comm (ht : t.Filled) (a b : SpellId) :
    t.checkSpellGroupStackRules a b = t.checkSpellGroupStackRules b a := by
  simp only [checkSpellGroupStackRules]
  rw [commonGroups_comm ht, if_congr eq_comm rfl rfl]

theorem stackRule_check (ht : t.Filled)
    (hne : t.getFirstRankSpell a ≠ t.getFirstRankSpell b) :
    StackRule t (t.getFirstRankSpell a) (t.getFirstRankSpell b)
      (t.checkSpellGroupStackRules a b) := by
  rw [checkSpellGroupStackRules, if_neg hne]
  rcases findRule_spec t.stack
    (t.commonGroups (t.getFirstRankSpell a) (t.getFirstRankSpell b)).elems with
    ⟨group, hmem, heq⟩ | ⟨hdefault, hnone⟩
  · exact .inl ⟨group, (mem_commonGroups ht).mp hmem, heq⟩
  · exact .inr ⟨hdefault, fun group hcounts => hnone group ((mem_commonGroups ht).mpr hcounts)⟩

variable (exists_ : SpellId → Bool) (chains : SpellChainMap) (rows : List SpellGroupRow)
  (stackRows : List SpellGroupStackRow)

theorem filled_load : (load exists_ chains rows stackRows).Filled := by
  intro spell group
  exact mem_spellGroup exists_ chains rows stackRows spell group

/-- **What the rule for two spells is**: the search of every group ends with the spells that can be
reached from it, and the rule is symmetric, depends on the first ranks only, and is one that the
groups allow, unless both are ranks of the same spell. -/
theorem checkSpellGroupStackRules_spec (exists_ : SpellId → Bool) (chains : SpellChainMap)
    (rows : List SpellGroupRow) (stackRows : List SpellGroupStackRow) :
    let t := load exists_ chains rows stackRows
    (∀ groupSpell group,
      Returns (getSetOfSpellsInSpellGroup groupSpell · group) (setOfSpells groupSpell group) ∧
        ∀ spell, spell ∈ setOfSpells groupSpell group ↔ HasSpell groupSpell group spell) ∧
    (∀ a b, t.checkSpellGroupStackRules a b = t.checkSpellGroupStackRules b a) ∧
    (∀ a a' b b', t.getFirstRankSpell a = t.getFirstRankSpell a' →
      t.getFirstRankSpell b = t.getFirstRankSpell b' →
        t.checkSpellGroupStackRules a b = t.checkSpellGroupStackRules a' b') ∧
    ∀ a b, if t.getFirstRankSpell a = t.getFirstRankSpell b then
        t.checkSpellGroupStackRules a b = .default
      else StackRule t (t.getFirstRankSpell a) (t.getFirstRankSpell b)
        (t.checkSpellGroupStackRules a b) := by
  intro t
  have ht : t.Filled := filled_load exists_ chains rows stackRows
  refine ⟨setOfSpells_returns, checkSpellGroupStackRules_comm ht,
    fun a a' b b' ha hb => ?_, fun a b => ?_⟩
  · simp only [checkSpellGroupStackRules, ha, hb]
  · split_ifs with heq
    · rw [checkSpellGroupStackRules, if_pos heq]
    · exact stackRule_check ht heq

/-- Two ranks of a spell that a group has in it do not follow the rule of the group. -/
theorem not_stackRule_ranks :
    let exists_ : SpellId → Bool := fun id => id ≠ 0
    let chains := loadSpellRanks exists_ [⟨10, 10, 1⟩, ⟨10, 30, 2⟩]
    let t := load exists_ chains [⟨1001, 10⟩] [⟨1001, 1⟩]
    ¬StackRule t (t.getFirstRankSpell 10) (t.getFirstRankSpell 30)
      (t.checkSpellGroupStackRules 10 30) := by
  intro exists_ chains t
  have hcheck : t.checkSpellGroupStackRules 10 30 = .default := rfl
  have hcontent : groupContent t.groupSpell 1001 = [.inr 10] := rfl
  have hstack : t.stack = Function.update (fun _ => none) 1001 (some .exclusive) := rfl
  have hcounts : Counts t (t.getFirstRankSpell 10) (t.getFirstRankSpell 30) 1001 := by
    have hspell : HasSpell t.groupSpell 1001 10 := ⟨1001, .refl, by simp [hcontent]⟩
    refine ⟨⟨hspell, hspell⟩, fun nested hnested => ?_⟩
    rw [LeadsTo, hcontent] at hnested
    simp at hnested
  rw [hcheck]
  rintro (⟨group, _, hrule⟩ | ⟨_, hnone⟩)
  · rw [hstack, Function.update_apply] at hrule
    split_ifs at hrule
    cases hrule
  · have h := hnone 1001 hcounts
    rw [hstack, Function.update_self] at h
    cases h

end SpellGroups

end TeraCore.Spells
