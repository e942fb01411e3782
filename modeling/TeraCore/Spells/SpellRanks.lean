import Mathlib.Data.List.Nodup
import Mathlib.Data.List.TakeWhile
import TeraCore.Commons.Loop

/-!
# Chains of spell ranks

The rows of `spell_ranks` come ordered by the spell they are grouped under and by rank.  The loader
cuts the groups out of the rows one after another, and makes a chain of the spells of a group whose
spells exist and have the ranks from 1 on.

The first spell of a chain is taken to be the one that the group is named after.  That it exists is
checked, but not that it has rank 1.

## Main definitions

* `loadSpellRanks`: the loader
* `getSpellWithRank`: the walk along a chain
* `ValidGroup`, `ChainsRight`: which groups become chains, and what the chains are

## Main results

* `loadChains_node`: what the loader makes of a group
* `chainsRight_iff`: when the chains are what they should be
-/

namespace TeraCore.Spells

open Commons

abbrev SpellId : Type := BitVec 32

/-- A row of `spell_ranks`. -/
structure SpellRank where
  first_spell_id : SpellId
  spell_id : SpellId
  rank : BitVec 8
  deriving DecidableEq

/-- **A link of a chain**; `first` and `last` are never `NULL`. -/
structure SpellChainNode where
  prev : Option SpellId
  next : Option SpellId
  first : SpellId
  last : SpellId
  rank : ℕ
  deriving DecidableEq

/-- `mSpellChains` -/
abbrev SpellChainMap : Type := SpellId → Option SpellChainNode

section Loader

variable (exists_ : SpellId → Bool)

def getSpellInfo (id : SpellId) : Option SpellId := if exists_ id then some id else none

/-- The loop that fills one chain: the spell of the group, the chain, and the rows that are left,
from the current one on. -/
def fillChain : List SpellRank → ℤ → List (SpellId × ℕ) →
    ℤ × List (SpellId × ℕ) × List SpellRank
  | [], lastSpell, rankChain => (lastSpell, rankChain, [])
  | row :: rows, lastSpell, rankChain =>
    let currentSpell := row.first_spell_id.toInt
    let lastSpell := if lastSpell = -1 then currentSpell else lastSpell
    if currentSpell = lastSpell then
      fillChain rows lastSpell (rankChain ++ [(row.spell_id, row.rank.toNat)])
    -- the row is not dropped
    else (lastSpell, rankChain, row :: rows)

def checkChain : ℕ → List (SpellId × ℕ) → Bool
  | _, [] => true
  | curRank, (spell, rank) :: rankChain =>
    (getSpellInfo exists_ spell).isSome && rank == curRank + 1 && checkChain (curRank + 1) rankChain

/-- The loop that inserts a chain. -/
def insertChain (first last : SpellId) :
    SpellId → List (SpellId × ℕ) → SpellChainMap → SpellChainMap
  | _, [], chains => chains
  | prevRank, (addedSpell, rank) :: rankChain, chains =>
    let node : SpellChainNode :=
      { prev := getSpellInfo exists_ prevRank
        next := rankChain.head?.bind fun next => getSpellInfo exists_ next.1
        first := first
        last := last
        rank := rank }
    insertChain first last addedSpell rankChain (Function.update chains addedSpell (some node))

/-- What becomes of a chain that was filled. -/
def addChain (lastSpell : ℤ) (rankChain : List (SpellId × ℕ)) (chains : SpellChainMap) :
    SpellChainMap :=
  match getSpellInfo exists_ (BitVec.ofInt 32 lastSpell) with
  | none => chains
  | some first =>
    if rankChain.length < 2 then chains
    else if !checkChain exists_ 0 rankChain then chains
    else insertChain exists_ first (rankChain.getLastD (0, 0)).1 0 rankChain chains

/-- The loop over the rows; a turn for each row is enough. -/
def loadChains : ℕ → List SpellRank → SpellChainMap → SpellChainMap
  | _, [], chains => chains
  | 0, _, chains => chains
  | turns + 1, rows, chains =>
    let (lastSpell, rankChain, rows) := fillChain rows (-1) []
    loadChains turns rows (addChain exists_ lastSpell rankChain chains)

def loadSpellRanks (rows : List SpellRank) : SpellChainMap :=
  loadChains exists_ rows.length rows fun _ => none

end Loader

/-! ## Walking along a chain -/

variable (chains : SpellChainMap) (spell_id : SpellId)

def getNextSpellInChain : SpellId :=
  ((chains spell_id).bind (·.next)).getD 0

def getPrevSpellInChain : SpellId :=
  ((chains spell_id).bind (·.prev)).getD 0

def getFirstSpellInChain : SpellId :=
  match chains spell_id with
  | some node => node.first
  | none => spell_id

/-- **`GetSpellWithRank`**, if the calls go no deeper than this; there is no spell beyond the end of
a chain. -/
def getSpellWithRank (chains : SpellChainMap) : ℕ → SpellId → ℕ → Bool → Option SpellId
  | 0, _, _, _ => none
  | depth + 1, spell_id, rank, strict =>
    match chains spell_id with
    | some node =>
      if rank ≠ node.rank then
        match if node.rank < rank then node.next else node.prev with
        | some spell => getSpellWithRank chains depth spell rank strict
        | none => none
      else some spell_id
    | none => if strict ∧ 1 < rank then some 0 else some spell_id

/-! ## Groups and their chains -/

/-- The rows that are grouped under a spell. -/
def group (rows : List SpellRank) (first : SpellId) : List SpellRank :=
  rows.filter fun row => row.first_spell_id = first

def spellsOf (rows : List SpellRank) (first : SpellId) : List SpellId :=
  (group rows first).map SpellRank.spell_id

/-- **A group that is a chain**: at least two rows, with spells that exist and ranks without gap. -/
structure ValidGroup (exists_ : SpellId → Bool) (rows : List SpellRank) (first : SpellId) :
    Prop where
  long : 2 ≤ (group rows first).length
  spells : ∀ spell ∈ spellsOf rows first, exists_ spell = true
  ranks : (group rows first).map (·.rank.toNat) = List.range' 1 (group rows first).length

/-- The link of the spell at a place of a chain. -/
def linkAt (chain : List SpellId) (i : ℕ) : SpellChainNode where
  prev := if i = 0 then none else chain[i - 1]?
  next := chain[i + 1]?
  first := chain.headD 0
  last := chain.getLastD 0
  rank := i + 1

/-- **The chains are those of the valid groups**, and a walk along a chain ends at the spell of the
rank. -/
structure ChainsRight (exists_ : SpellId → Bool) (rows : List SpellRank)
    (chains : SpellChainMap) : Prop where
  entries : ∀ spell, (chains spell).isSome = true ↔
    ∃ first, ValidGroup exists_ rows first ∧ spell ∈ spellsOf rows first
  links : ∀ first, ValidGroup exists_ rows first →
    ∀ i spell, (spellsOf rows first)[i]? = some spell →
    chains spell = some (linkAt (spellsOf rows first) i)
  inverse : ∀ first, ValidGroup exists_ rows first → ∀ spell ∈ spellsOf rows first,
    ∀ spell' ∈ spellsOf rows first,
      (getNextSpellInChain chains spell = spell' ↔ getPrevSpellInChain chains spell' = spell)
  withRank : ∀ first, ValidGroup exists_ rows first → ∀ spell ∈ spellsOf rows first,
    ∀ rank target, (spellsOf rows first)[rank]? = some target → ∀ strict,
      Returns (getSpellWithRank chains · spell (rank + 1) strict) target

variable {exists_ : SpellId → Bool} {rows rest : List SpellRank} {chains : SpellChainMap}
  {first spell : SpellId} {chain : List SpellId}

/-! ## Filling one chain -/

/-- What the loader keeps of a row. -/
def SpellRank.entry (row : SpellRank) : SpellId × ℕ := (row.spell_id, row.rank.toNat)

/-- A group that has begun goes on as long as its spell does.  The spell whose number is -1 as a
signed one is the largest, and no other comes after it. -/
theorem fillChain_eq (h : ∀ row ∈ rows, first ≤ row.first_spell_id)
    (rankChain : List (SpellId × ℕ)) :
    fillChain rows first.toInt rankChain =
      (first.toInt, rankChain ++ (rows.takeWhile (·.first_spell_id = first)).map SpellRank.entry,
        rows.dropWhile (·.first_spell_id = first)) := by
  induction rows generalizing rankChain with
  | nil => simp [fillChain]
  | cons row rows ih =>
    have hrow : first ≤ row.first_spell_id := h row List.mem_cons_self
    have hlast : (if first.toInt = -1 then row.first_spell_id.toInt else first.toInt) =
        first.toInt := by
      split_ifs with hmax
      · have hfirst : first = 0xFFFFFFFF#32 := by
          apply BitVec.eq_of_toInt_eq
          rw [hmax]
          rfl
        have hsame : row.first_spell_id = first := by
          rw [hfirst] at hrow ⊢
          bv_omega
        rw [hsame]
      · rfl
    rw [fillChain, hlast]
    by_cases hsame : row.first_spell_id = first
    · rw [if_pos (by rw [hsame]), ih (fun row hr => h row (List.mem_cons_of_mem _ hr))]
      simp [hsame, SpellRank.entry]
    · rw [if_neg fun heq => hsame (BitVec.eq_of_toInt_eq heq)]
      simp [hsame]

/-- The rows are ordered by the spell they are grouped under. -/
def Ordered (rows : List SpellRank) : Prop :=
  rows.Pairwise fun row row' => row.first_spell_id ≤ row'.first_spell_id

theorem fillChain_group {row : SpellRank} (h : Ordered (row :: rows)) :
    ∃ left, row :: rows = group (row :: rows) row.first_spell_id ++ left ∧
      (∀ row' ∈ left, row'.first_spell_id ≠ row.first_spell_id) ∧
      fillChain (row :: rows) (-1) [] = (row.first_spell_id.toInt,
        (group (row :: rows) row.first_spell_id).map SpellRank.entry, left) := by
  have hle : ∀ row' ∈ rows, row.first_spell_id ≤ row'.first_spell_id := (List.pairwise_cons.mp h).1
  have hleft : ∀ row' ∈ rows.dropWhile (·.first_spell_id = row.first_spell_id),
      row'.first_spell_id ≠ row.first_spell_id := by
    -- the first row that is left has another spell, and the spells only grow
    have hsorted : (rows.dropWhile (·.first_spell_id = row.first_spell_id)).Pairwise
        fun row row' => row.first_spell_id ≤ row'.first_spell_id :=
      (List.pairwise_cons.mp h).2.sublist (List.dropWhile_sublist _)
    cases hdrop : rows.dropWhile (·.first_spell_id = row.first_spell_id) with
    | nil => simp
    | cons next left =>
      have hnext : next.first_spell_id ≠ row.first_spell_id := by
        have hhead := List.head?_dropWhile_not
          (fun r : SpellRank => decide (r.first_spell_id = row.first_spell_id)) rows
        rw [hdrop] at hhead
        simpa using hhead
      have hmem : next ∈ rows :=
        (List.dropWhile_sublist _).subset (hdrop ▸ List.mem_cons_self)
      rw [hdrop] at hsorted
      intro row' hrow' heq
      rcases List.mem_cons.mp hrow' with rfl | hrow'
      · exact hnext heq
      · have hback : next.first_spell_id ≤ row.first_spell_id :=
          heq ▸ (List.pairwise_cons.mp hsorted).1 row' hrow'
        exact hnext (BitVec.le_antisymm hback (hle next hmem))
  have hgroup : group (row :: rows) row.first_spell_id =
      row :: rows.takeWhile (·.first_spell_id = row.first_spell_id) := by
    have hsplit := List.takeWhile_append_dropWhile
      (p := fun r : SpellRank => decide (r.first_spell_id = row.first_spell_id)) (l := rows)
    have hnone : (rows.dropWhile (·.first_spell_id = row.first_spell_id)).filter
        (·.first_spell_id = row.first_spell_id) = [] :=
      List.filter_eq_nil_iff.mpr (by simpa using hleft)
    rw [group, List.filter_cons_of_pos (by simp)]
    congr 1
    conv_lhs => rw [← hsplit]
    rw [List.filter_append, hnone, List.append_nil, List.filter_eq_self]
    exact fun r hr => List.mem_takeWhile_imp
      (p := fun r : SpellRank => decide (r.first_spell_id = row.first_spell_id)) hr
  refine ⟨rows.dropWhile (·.first_spell_id = row.first_spell_id), ?_, hleft, ?_⟩
  · rw [hgroup, List.cons_append, List.takeWhile_append_dropWhile]
  · have hcur : (if (-1 : ℤ) = -1 then row.first_spell_id.toInt else -1) =
        row.first_spell_id.toInt := if_pos rfl
    rw [fillChain, hcur, if_pos rfl, fillChain_eq hle, hgroup]
    rfl

/-! ## Inserting a chain -/

theorem insertChain_of_notMem {last prevRank : SpellId} {rankChain : List (SpellId × ℕ)}
    (h : spell ∉ rankChain.map Prod.fst) :
    insertChain exists_ first last prevRank rankChain chains spell = chains spell := by
  induction rankChain generalizing prevRank chains with
  | nil => rfl
  | cons entry rankChain ih =>
    rw [List.map_cons, List.mem_cons, not_or] at h
    rw [insertChain, ih h.2, Function.update_of_ne h.1]

theorem insertChain_at {last prevRank : SpellId} {rankChain : List (SpellId × ℕ)}
    (hnodup : (rankChain.map Prod.fst).Nodup) {i rank : ℕ}
    (h : rankChain[i]? = some (spell, rank)) :
    insertChain exists_ first last prevRank rankChain chains spell = some
      { prev := (prevRank :: rankChain.map Prod.fst)[i]?.bind (getSpellInfo exists_)
        next := (rankChain.map Prod.fst)[i + 1]?.bind (getSpellInfo exists_)
        first := first
        last := last
        rank := rank } := by
  induction rankChain generalizing prevRank chains i with
  | nil => cases h
  | cons entry rankChain ih =>
    obtain ⟨hnotMem, hnodup⟩ := List.nodup_cons.mp hnodup
    cases i with
    | zero =>
      cases h
      rw [insertChain, insertChain_of_notMem hnotMem, Function.update_self]
      cases rankChain <;> rfl
    | succ i =>
      rw [insertChain, ih hnodup h]
      rfl

theorem checkChain_iff {curRank : ℕ} {rankChain : List (SpellId × ℕ)} :
    checkChain exists_ curRank rankChain = true ↔
      (∀ spell ∈ rankChain.map Prod.fst, exists_ spell = true) ∧
        rankChain.map Prod.snd = List.range' (curRank + 1) rankChain.length := by
  induction rankChain generalizing curRank with
  | nil => simp [checkChain]
  | cons entry rankChain ih =>
    rw [checkChain, Bool.and_eq_true, Bool.and_eq_true, ih]
    simp only [getSpellInfo, List.map_cons, List.mem_cons, forall_eq_or_imp, List.length_cons,
      List.range'_succ, List.cons.injEq, beq_iff_eq]
    split_ifs with hspell <;> simp [hspell, and_left_comm]

/-- What the loader inserts for a group: its first row has the spell 0 before it, and its first
spell is the one that the group is named after. -/
def insertedAt (exists_ : SpellId → Bool) (first : SpellId) (chain : List SpellId) (i : ℕ) :
    SpellChainNode where
  prev := (0 :: chain)[i]?.bind (getSpellInfo exists_)
  next := chain[i + 1]?.bind (getSpellInfo exists_)
  first := first
  last := chain.getLastD 0
  rank := i + 1

theorem map_fst_entry (rows : List SpellRank) :
    (rows.map SpellRank.entry).map Prod.fst = rows.map SpellRank.spell_id := by
  rw [List.map_map]
  rfl

theorem map_snd_entry (rows : List SpellRank) :
    (rows.map SpellRank.entry).map Prod.snd = rows.map (·.rank.toNat) := by
  rw [List.map_map]
  rfl

theorem addChain_eq (first : SpellId) (rankChain : List (SpellId × ℕ)) (chains : SpellChainMap) :
    addChain exists_ first.toInt rankChain chains =
      if exists_ first = true ∧ 2 ≤ rankChain.length ∧ checkChain exists_ 0 rankChain = true then
        insertChain exists_ first (rankChain.getLastD (0, 0)).1 0 rankChain chains
      else chains := by
  unfold addChain
  rw [BitVec.ofInt_toInt, getSpellInfo]
  cases exists_ first with
  | false => simp
  | true =>
    by_cases hlong : 2 ≤ rankChain.length
    · cases hcheck : checkChain exists_ 0 rankChain <;> simp [hlong, not_lt.mpr hlong]
    · simp [hlong, not_le.mp hlong]

theorem addChain_of_notMem (h : spell ∉ spellsOf rows first) :
    addChain exists_ first.toInt ((group rows first).map SpellRank.entry) chains spell =
      chains spell := by
  rw [addChain_eq]
  split_ifs
  · exact insertChain_of_notMem (map_fst_entry _ ▸ h)
  · rfl

theorem checkChain_group (hlong : 2 ≤ (group rows first).length) :
    checkChain exists_ 0 ((group rows first).map SpellRank.entry) = true ↔
      ValidGroup exists_ rows first := by
  rw [checkChain_iff, map_fst_entry, map_snd_entry, List.length_map]
  exact ⟨fun ⟨hspells, hranks⟩ => ⟨hlong, hspells, hranks⟩, fun h => ⟨h.spells, h.ranks⟩⟩

theorem addChain_of_not (h : ¬(exists_ first = true ∧ ValidGroup exists_ rows first)) :
    addChain exists_ first.toInt ((group rows first).map SpellRank.entry) chains = chains := by
  rw [addChain_eq, if_neg]
  rintro ⟨hfirst, hlong, hcheck⟩
  rw [List.length_map] at hlong
  exact h ⟨hfirst, (checkChain_group hlong).mp hcheck⟩

theorem addChain_of_valid (hfirst : exists_ first = true) (h : ValidGroup exists_ rows first)
    (hnodup : (spellsOf rows first).Nodup) {i : ℕ} (hi : (spellsOf rows first)[i]? = some spell) :
    addChain exists_ first.toInt ((group rows first).map SpellRank.entry) chains spell =
      some (insertedAt exists_ first (spellsOf rows first) i) := by
  have hentry : ((group rows first).map SpellRank.entry)[i]? = some (spell, i + 1) := by
    obtain ⟨hlt, hget⟩ := List.getElem?_eq_some_iff.mp hi
    rw [spellsOf, List.length_map] at hlt
    rw [spellsOf, List.getElem?_map, List.getElem?_eq_getElem hlt] at hi
    have hrank : ((group rows first).map (·.rank.toNat))[i]? = some (1 + i) := by
      rw [h.ranks, List.getElem?_range' hlt, Nat.one_mul]
    rw [List.getElem?_map, List.getElem?_eq_getElem hlt] at hrank ⊢
    simp only [Option.map_some, Option.some.injEq] at hi hrank ⊢
    rw [SpellRank.entry, hi, hrank, Nat.add_comm]
  have hlast : (((group rows first).map SpellRank.entry).getLastD (0, 0)).1 =
      (spellsOf rows first).getLastD 0 := by
    rw [List.getLastD_eq_getLast?, List.getLastD_eq_getLast?, spellsOf, List.getLast?_map,
      List.getLast?_map]
    cases (group rows first).getLast? <;> rfl
  rw [addChain_eq, if_pos ⟨hfirst, by rw [List.length_map]; exact h.long,
    (checkChain_group h.long).mpr h⟩, insertChain_at (map_fst_entry _ ▸ hnodup) hentry, hlast,
    map_fst_entry]
  rfl

/-! ## The loop over the groups -/

theorem group_append (rows rows' : List SpellRank) (first : SpellId) :
    group (rows ++ rows') first = group rows first ++ group rows' first :=
  List.filter_append ..

theorem validGroup_congr {rows' : List SpellRank} (h : group rows first = group rows' first) :
    ValidGroup exists_ rows first ↔ ValidGroup exists_ rows' first := by
  constructor
  · rintro ⟨hlong, hspells, hranks⟩
    exact ⟨h ▸ hlong, by rwa [spellsOf, ← h], h ▸ hranks⟩
  · rintro ⟨hlong, hspells, hranks⟩
    exact ⟨h ▸ hlong, by rwa [spellsOf, h], h ▸ hranks⟩

theorem loadChains_node {turns : ℕ} (hturns : rows.length ≤ turns) (hordered : Ordered rows)
    (hnodup : (rows.map SpellRank.spell_id).Nodup) :
    (∀ spell ∉ rows.map SpellRank.spell_id, loadChains exists_ turns rows chains spell =
        chains spell) ∧
      ∀ first i spell, (spellsOf rows first)[i]? = some spell →
        (exists_ first = true ∧ ValidGroup exists_ rows first →
          loadChains exists_ turns rows chains spell =
            some (insertedAt exists_ first (spellsOf rows first) i)) ∧
        (¬(exists_ first = true ∧ ValidGroup exists_ rows first) →
          loadChains exists_ turns rows chains spell = chains spell) := by
  induction turns generalizing rows chains with
  | zero =>
    obtain rfl := List.length_eq_zero_iff.mp (Nat.le_zero.mp hturns)
    exact ⟨fun _ _ => rfl, fun _ _ _ h => by cases h⟩
  | succ turns ih =>
    cases rows with
    | nil => exact ⟨fun _ _ => by rw [loadChains], fun _ _ _ h => by cases h⟩
    | cons row rest =>
      obtain ⟨left, hsplit, hleft, hfill⟩ := fillChain_group hordered
      have hrow : row ∈ group (row :: rest) row.first_spell_id :=
        List.mem_filter.mpr ⟨List.mem_cons_self, by simp⟩
      generalize row.first_spell_id = own at hsplit hleft hfill hrow
      have hload : loadChains exists_ (turns + 1) (row :: rest) chains =
          loadChains exists_ turns left (addChain exists_ own.toInt
            ((group (row :: rest) own).map SpellRank.entry) chains) := by
        rw [loadChains, hfill]
        exact List.cons_ne_nil _ _
      have hspells : (row :: rest).map SpellRank.spell_id =
          spellsOf (row :: rest) own ++ left.map SpellRank.spell_id := by
        conv_lhs => rw [hsplit]
        rw [List.map_append]
        rfl
      rw [hspells, List.nodup_append] at hnodup
      obtain ⟨hownNodup, hleftNodup, hdisjoint⟩ := hnodup
      have hlength : left.length ≤ turns := by
        have hpos := List.length_pos_of_mem hrow
        have htotal := congrArg List.length hsplit
        rw [List.length_append] at htotal
        omega
      have hleftOrdered : Ordered left :=
        hordered.sublist (hsplit ▸ List.sublist_append_right _ _)
      obtain ⟨hframe, hgroups⟩ := @ih left (addChain exists_ own.toInt
        ((group (row :: rest) own).map SpellRank.entry) chains) hlength hleftOrdered hleftNodup
      rw [hload]
      refine ⟨fun spell hspell => ?_, fun first i spell hi => ?_⟩
      · rw [hspells, List.mem_append, not_or] at hspell
        rw [hframe spell hspell.2, addChain_of_notMem hspell.1]
      · by_cases hown : first = own
        · subst hown
          have hmem : spell ∈ spellsOf (row :: rest) first := List.mem_of_getElem? hi
          have hnotLeft : spell ∉ left.map SpellRank.spell_id :=
            fun h => hdisjoint spell hmem spell h rfl
          rw [hframe spell hnotLeft]
          refine ⟨fun ⟨hfirst, hvalid⟩ => addChain_of_valid hfirst hvalid hownNodup hi,
            fun hnot => ?_⟩
          rw [addChain_of_not hnot]
        · -- another group lies in what is left
          have hgroup : group (row :: rest) first = group left first := by
            have hnone : group (group (row :: rest) own) first = [] := by
              refine List.filter_eq_nil_iff.mpr fun r hr => ?_
              have hr : r.first_spell_id = own := by simpa using (List.mem_filter.mp hr).2
              simpa [hr] using fun h => hown h.symm
            conv_lhs => rw [hsplit]
            rw [group_append, hnone, List.nil_append]
          have hspellsOf : spellsOf (row :: rest) first = spellsOf left first := by
            rw [spellsOf, hgroup, spellsOf]
          rw [hspellsOf] at hi ⊢
          rw [validGroup_congr hgroup]
          have hmem : spell ∈ left.map SpellRank.spell_id :=
            (List.filter_sublist.map _).subset (List.mem_of_getElem? hi)
          have hnotOwn : spell ∉ spellsOf (row :: rest) own :=
            fun h => hdisjoint spell h spell hmem rfl
          have hkept : addChain exists_ own.toInt ((group (row :: rest) own).map SpellRank.entry)
              chains spell = chains spell := addChain_of_notMem hnotOwn
          rw [← hkept]
          exact hgroups first i spell hi

/-! ## When the chains are right -/

/-- The walk goes one link towards the rank, and needs no more links than there are between the
two. -/
theorem getSpellWithRank_returns (hlinks : ∀ i spell, chain[i]? = some spell →
      ∃ node, chains spell = some node ∧ node.rank = i + 1 ∧ node.next = chain[i + 1]? ∧
        (0 < i → node.prev = chain[i - 1]?))
    {i rank : ℕ} {target : SpellId} (hi : chain[i]? = some spell)
    (hrank : chain[rank]? = some target) (strict : Bool) :
    Returns (getSpellWithRank chains · spell (rank + 1) strict) target := by
  obtain ⟨distance, hdistance⟩ : ∃ distance, distance = (i - rank) + (rank - i) := ⟨_, rfl⟩
  refine ⟨distance + 1, fun depth hdepth => ?_⟩
  dsimp only
  induction distance generalizing i spell depth with
  | zero =>
    obtain rfl : i = rank := by omega
    obtain ⟨depth, rfl⟩ := Nat.exists_eq_add_of_le' hdepth
    obtain ⟨node, hnode, hnodeRank, -, -⟩ := hlinks i spell hi
    rw [Nat.zero_add, getSpellWithRank, hnode]
    dsimp only
    rw [hnodeRank, if_neg (not_not.mpr rfl), ← hi, hrank]
  | succ distance ih =>
    obtain ⟨depth, rfl⟩ := Nat.exists_eq_add_of_le' (Nat.le_of_succ_le hdepth)
    obtain ⟨node, hnode, hnodeRank, hnext, hprev⟩ := hlinks i spell hi
    have hne : rank + 1 ≠ node.rank := by omega
    obtain ⟨j, next, hj, hstep, hnearer⟩ : ∃ j next, chain[j]? = some next ∧
        (if node.rank < rank + 1 then node.next else node.prev) = some next ∧
        distance = (j - rank) + (rank - j) := by
      by_cases hlt : node.rank < rank + 1
      · have hin : i + 1 < chain.length := by
          have := (List.getElem?_eq_some_iff.mp hrank).1
          omega
        refine ⟨i + 1, chain[i + 1], List.getElem?_eq_getElem hin, ?_, by omega⟩
        rw [if_pos hlt, hnext, List.getElem?_eq_getElem hin]
      · have hin : i - 1 < chain.length := by
          have := (List.getElem?_eq_some_iff.mp hi).1
          omega
        refine ⟨i - 1, chain[i - 1], List.getElem?_eq_getElem hin, ?_, by omega⟩
        rw [if_neg hlt, hprev (by omega), List.getElem?_eq_getElem hin]
    rw [← Nat.add_assoc, getSpellWithRank, hnode]
    dsimp only
    rw [if_pos hne, hstep]
    exact ih hj hnearer _ (by omega)

theorem getElem?_bind_getSpellInfo (h : ∀ spell ∈ chain, exists_ spell = true) (i : ℕ) :
    chain[i]?.bind (getSpellInfo exists_) = chain[i]? := by
  cases hi : chain[i]? with
  | none => rfl
  | some spell => simp [getSpellInfo, h spell (List.mem_of_getElem? hi)]

theorem insertedAt_eq_linkAt (h : ∀ spell ∈ chain, exists_ spell = true)
    (hfirst : chain.head? = some first) (hzero : exists_ 0 = false) (i : ℕ) :
    insertedAt exists_ first chain i = linkAt chain i := by
  have hhead : chain.headD 0 = first := by rw [List.headD_eq_head?_getD, hfirst, Option.getD_some]
  have hprev : (0 :: chain)[i]?.bind (getSpellInfo exists_) =
      if i = 0 then none else chain[i - 1]? := by
    cases i with
    | zero => simpa [getSpellInfo] using hzero
    | succ i =>
      rw [List.getElem?_cons_succ, getElem?_bind_getSpellInfo h]
      simp
  rw [insertedAt, linkAt, hprev, getElem?_bind_getSpellInfo h, hhead]

theorem getElem?_getD_eq_iff (hnodup : chain.Nodup) (hne : spell ≠ 0) {j : ℕ}
    (hj : chain[j]? = some spell) (k : ℕ) : chain[k]?.getD 0 = spell ↔ k = j := by
  constructor
  · intro hk
    cases hget : chain[k]? with
    | none =>
      rw [hget, Option.getD_none] at hk
      exact absurd hk.symm hne
    | some next =>
      rw [hget, Option.getD_some] at hk
      exact (List.getElem?_inj (List.getElem?_eq_some_iff.mp hget).1 hnodup).mp
        (hget.trans (hk ▸ hj.symm))
  · rintro rfl
    rw [hj, Option.getD_some]

theorem next_iff_prev (hnodup : chain.Nodup) (hzero : 0 ∉ chain)
    (hlinks : ∀ i spell, chain[i]? = some spell → chains spell = some (linkAt chain i))
    {spell' : SpellId} (hspell : spell ∈ chain) (hspell' : spell' ∈ chain) :
    getNextSpellInChain chains spell = spell' ↔ getPrevSpellInChain chains spell' = spell := by
  obtain ⟨i, hi⟩ := List.mem_iff_getElem?.mp hspell
  obtain ⟨j, hj⟩ := List.mem_iff_getElem?.mp hspell'
  have hne : spell ≠ 0 := fun heq => hzero (heq ▸ hspell)
  have hne' : spell' ≠ 0 := fun heq => hzero (heq ▸ hspell')
  have hnext : getNextSpellInChain chains spell = chain[i + 1]?.getD 0 := by
    rw [getNextSpellInChain, hlinks i spell hi]
    rfl
  have hprev : getPrevSpellInChain chains spell' =
      (if j = 0 then none else chain[j - 1]?).getD 0 := by
    rw [getPrevSpellInChain, hlinks j spell' hj]
    rfl
  rw [hnext, hprev, getElem?_getD_eq_iff hnodup hne' hj]
  split_ifs with hfirst
  · exact iff_of_false (by omega) fun heq => hne heq.symm
  · rw [getElem?_getD_eq_iff hnodup hne hi]
    omega

/-- **The chains are right** exactly when every group that is a chain is named after its first
spell, and, if there is such a group, there is no spell 0. -/
theorem chainsRight_iff (exists_ : SpellId → Bool) (rows : List SpellRank)
    (hordered : rows.Pairwise fun row row' => row.first_spell_id < row'.first_spell_id ∨
      row.first_spell_id = row'.first_spell_id ∧ row.rank ≤ row'.rank)
    (hnodup : (rows.map SpellRank.spell_id).Nodup) :
    ChainsRight exists_ rows (loadSpellRanks exists_ rows) ↔
      ∀ first, ValidGroup exists_ rows first →
        (spellsOf rows first).head? = some first ∧ exists_ 0 = false := by
  have hordered' : Ordered rows := hordered.imp fun {row row'} h => by
    rcases h with h | ⟨h, -⟩
    · exact BitVec.le_of_lt h
    · rw [h]
      exact BitVec.le_refl _
  obtain ⟨hframe, hgroups⟩ := @loadChains_node exists_ rows (fun _ => none) _ le_rfl hordered'
    hnodup
  have hlong : ∀ first, ValidGroup exists_ rows first →
      ∃ spell, (spellsOf rows first)[0]? = some spell := fun first hvalid => by
    have hpos : 0 < (spellsOf rows first).length := by
      rw [spellsOf, List.length_map]
      exact Nat.lt_of_lt_of_le Nat.zero_lt_two hvalid.long
    exact ⟨_, List.getElem?_eq_getElem hpos⟩
  constructor
  · rintro ⟨hentries, hlinks, -, -⟩ first hvalid
    obtain ⟨spell, hspell⟩ := hlong first hvalid
    have hlink := hlinks first hvalid 0 spell hspell
    obtain ⟨hinserted, hnothing⟩ := hgroups first 0 spell hspell
    by_cases hfirst : exists_ first = true
    · have hnode := hlink.symm.trans (hinserted ⟨hfirst, hvalid⟩)
      have hsame := congrArg SpellChainNode.first (Option.some.inj hnode)
      have hprev := congrArg SpellChainNode.prev (Option.some.inj hnode)
      rw [List.head?_eq_getElem?, hspell]
      refine ⟨congrArg some ?_, ?_⟩
      · simpa [linkAt, insertedAt, List.headD_eq_head?_getD, List.head?_eq_getElem?, hspell]
          using hsame
      · simpa [linkAt, insertedAt, getSpellInfo] using hprev
    · have hnone := hnothing fun h => hfirst h.1
      rw [loadSpellRanks, hnone] at hlink
      cases hlink
  · intro hnamed
    have hlink : ∀ first, ValidGroup exists_ rows first → ∀ i spell,
        (spellsOf rows first)[i]? = some spell →
          loadSpellRanks exists_ rows spell = some (linkAt (spellsOf rows first) i) := by
      intro first hvalid i spell hspell
      obtain ⟨hhead, hzero⟩ := hnamed first hvalid
      have hfirst : exists_ first = true := hvalid.spells first (List.mem_of_mem_head? hhead)
      rw [loadSpellRanks, (hgroups first i spell hspell).1 ⟨hfirst, hvalid⟩,
        insertedAt_eq_linkAt hvalid.spells hhead hzero]
    refine ⟨fun spell => ⟨fun hsome => ?_, ?_⟩, hlink,
      fun first hvalid spell hspell spell' hspell' => ?_, fun first hvalid spell hspell => ?_⟩
    · -- a spell of no group is not touched, and neither is one of a group that is no chain
      by_contra hnone
      have hnot : loadSpellRanks exists_ rows spell = none := by
        by_cases hmem : spell ∈ rows.map SpellRank.spell_id
        · obtain ⟨row, hrow, rfl⟩ := List.mem_map.mp hmem
          have hspell : row.spell_id ∈ spellsOf rows row.first_spell_id :=
            List.mem_map_of_mem (List.mem_filter.mpr ⟨hrow, by simp⟩)
          obtain ⟨i, hi⟩ := List.mem_iff_getElem?.mp hspell
          exact (hgroups row.first_spell_id i row.spell_id hi).2
            fun h => hnone ⟨row.first_spell_id, h.2, hspell⟩
        · exact hframe spell hmem
      rw [hnot] at hsome
      cases hsome
    · rintro ⟨first, hvalid, hspell⟩
      obtain ⟨i, hi⟩ := List.mem_iff_getElem?.mp hspell
      rw [hlink first hvalid i spell hi]
      rfl
    · have hchain : (spellsOf rows first).Nodup := hnodup.sublist (List.filter_sublist.map _)
      refine next_iff_prev hchain (fun hzero => ?_) (hlink first hvalid) hspell hspell'
      exact Bool.false_ne_true ((hnamed first hvalid).2.symm.trans (hvalid.spells 0 hzero))
    · intro rank target hrank strict
      obtain ⟨i, hi⟩ := List.mem_iff_getElem?.mp hspell
      refine getSpellWithRank_returns (fun i spell hi => ?_) hi hrank strict
      exact ⟨_, hlink first hvalid i spell hi, rfl, rfl, fun hpos => if_neg hpos.ne'⟩

/-- The spells 20 and 30, grouped under the spell 10. -/
def misnamedRows : List SpellRank := [⟨10, 20, 1⟩, ⟨10, 30, 2⟩]

theorem not_chainsRight_misnamedRows :
    ¬ChainsRight (· != 0) misnamedRows (loadSpellRanks (· != 0) misnamedRows) := by
  intro hright
  have hspells : ∀ spell ∈ spellsOf misnamedRows 10, (spell != 0) = true := by
    have hlist : spellsOf misnamedRows 10 = [20, 30] := rfl
    rw [hlist]
    simp
  have hvalid : ValidGroup (· != 0) misnamedRows 10 := ⟨le_rfl, hspells, rfl⟩
  have hlink := hright.links 10 hvalid 0 20 rfl
  have hloaded : (loadSpellRanks (· != 0) misnamedRows 20).map SpellChainNode.first = some 10 := by
    decide
  rw [hlink] at hloaded
  exact absurd hloaded (by decide)

theorem chainsRight_iff_twoRanks :
    ChainsRight (· != 0) [⟨10, 10, 1⟩, ⟨10, 30, 2⟩]
        (loadSpellRanks (· != 0) [⟨10, 10, 1⟩, ⟨10, 30, 2⟩]) ↔
      ∀ first, ValidGroup (· != 0) [⟨10, 10, 1⟩, ⟨10, 30, 2⟩] first →
        (spellsOf [⟨10, 10, 1⟩, ⟨10, 30, 2⟩] first).head? = some first ∧
          ((0 : SpellId) != 0) = false :=
  chainsRight_iff (· != 0) _ (by decide +kernel) (by decide)

end TeraCore.Spells
