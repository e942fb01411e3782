import Mathlib.Algebra.BigOperators.Intervals
import TeraCore.Commons.Run
import TeraCore.Commons.Tiers

/-!
# Talents

A player learns a rank of a talent, which replaces the lower ranks and costs a point for each rank
that is gained.  The talents of a tab lie in rows.  For a talent of a row, five points for every row
above it must have been spent in the tab, in whatever rows; and the talent that it depends on must
be known, at a certain rank.  The talents of a pet are learned in the same way.

A player does not store which ranks are known.  They are found out from the spells that he knows.
The spells of the ranks are taken to exist: to learn another one fails, but is paid for.

The points that a row needs are a product of 32 bits.  For a row that is too large for it, fewer
points are enough.

## Main definitions

* `learnTalent`, `learnPetTalent`: the requests of a client
* `Legal`: the trees as they should be

## Main results

* `Legal.learn`: a request keeps the trees legal, unless the product wraps around
* `learnTalent_legal`, `learnPetTalent_legal`: the trees after any number of requests
-/

namespace TeraCore

open Commons Finset

/-! ## The stores -/

def maxTalentRank : ℕ := 5

def maxPetTalentRank : ℕ := 3

/-- A talent; the ranks below `MAX_TALENT_RANK` have spells, or 0. -/
structure TalentEntry where
  talentTab : ℕ
  row : BitVec 32
  rankID : ℕ → BitVec 32
  dependsOn : ℕ
  dependsOnRank : ℕ

structure TalentTabEntry where
  classMask : BitVec 32
  petTalentMask : BitVec 32
  deriving DecidableEq

/-- **`sTalentStore` and `sTalentTabStore`**: no spell is a rank of two talents, or two ranks of
one. -/
structure TalentStores where
  numRows : ℕ
  talent : ℕ → Option TalentEntry
  tab : ℕ → Option TalentTabEntry
  lt_numRows : ∀ id talentInfo, talent id = some talentInfo → id < numRows
  rankID_inj : ∀ id id' talentInfo talentInfo', talent id = some talentInfo →
    talent id' = some talentInfo' → ∀ rank < maxTalentRank, ∀ rank' < maxTalentRank,
    talentInfo.rankID rank = talentInfo'.rankID rank' → talentInfo.rankID rank ≠ 0 →
      id = id' ∧ rank = rank'
  dependsOnRank_lt : ∀ id talentInfo, talent id = some talentInfo →
    talentInfo.dependsOnRank < maxTalentRank

/-- What is read of a player, or of a pet. -/
structure TalentState where
  freeTalentPoints : BitVec 32
  hasSpell : BitVec 32 → Bool

/-! ## Learning -/

def knowsRank (hasSpell : BitVec 32 → Bool) (talentInfo : TalentEntry) (rank : ℕ) : Bool :=
  talentInfo.rankID rank != 0 && hasSpell (talentInfo.rankID rank)

/-- `curtalent_maxrank`: the loop that finds the highest rank. -/
def curtalentMaxrank (hasSpell : BitVec 32 → Bool) (talentInfo : TalentEntry) : ℕ :=
  match (List.range maxTalentRank).reverse.find? (knowsRank hasSpell talentInfo) with
  | some rank => rank + 1
  | none => 0

/-- The points that were spent for a talent, added up over its ranks. -/
def spentFor (hasSpell : BitVec 32 → Bool) (talentInfo : TalentEntry) : ℕ :=
  ∑ rank ∈ range maxTalentRank, if knowsRank hasSpell talentInfo rank then rank + 1 else 0

/-- `learnSpell`: the spell is known, and the other ranks of the talent are not. -/
def learnSpell (hasSpell : BitVec 32 → Bool) (talentInfo : TalentEntry) (spellid : BitVec 32) :
    BitVec 32 → Bool := fun spell =>
  spell == spellid ||
    (hasSpell spell && !(List.range maxTalentRank).any fun rank => talentInfo.rankID rank == spell)

namespace TalentStores

variable (stores : TalentStores)

/-- The points that were spent for the talent with this id. -/
def points (s : TalentState) (id : ℕ) : ℕ :=
  match stores.talent id with
  | some talentInfo => spentFor s.hasSpell talentInfo
  | none => 0

def talentsOf (tTab : ℕ) : Finset ℕ :=
  (range stores.numRows).filter fun id => (stores.talent id).any (·.talentTab == tTab)

/-- The row of the talent with this id. -/
def rowOf (id : ℕ) : ℕ :=
  match stores.talent id with
  | some talentInfo => talentInfo.row.toNat
  | none => 0

/-- `spentPoints`: the loop over all talents, in an `uint32`. -/
def spentPoints (s : TalentState) (tTab : ℕ) : BitVec 32 :=
  BitVec.ofNat 32 (∑ id ∈ stores.talentsOf tTab, stores.points s id)

/-- Is the talent known that this one depends on, if it does on one? -/
def hasEnoughRank (s : TalentState) (talentInfo : TalentEntry) : Bool :=
  if 0 < talentInfo.dependsOn then
    match stores.talent talentInfo.dependsOn with
    | some depTalentInfo => (List.range maxTalentRank).any fun rank =>
        decide (talentInfo.dependsOnRank % 2 ^ 8 ≤ rank) && knowsRank s.hasSpell depTalentInfo rank
    | none => true
  else true

variable (maxRank : ℕ) (mayLearn : TalentTabEntry → Bool) (s : TalentState)

/-- The checks that a request must pass: the talent, and the points that the rank costs. -/
def checkTalent (talentId : ℕ) (talentRank : BitVec 32) : Option (TalentEntry × BitVec 32) := do
  guard (s.freeTalentPoints ≠ 0)
  guard (talentRank.toNat < maxRank)
  let talentInfo ← stores.talent talentId
  let talentTabInfo ← stores.tab talentInfo.talentTab
  guard (mayLearn talentTabInfo)
  let curtalent_maxrank := curtalentMaxrank s.hasSpell talentInfo
  guard (curtalent_maxrank < talentRank.toNat + 1)
  let cost := talentRank - BitVec.ofNat 32 curtalent_maxrank + 1
  guard (cost ≤ s.freeTalentPoints)
  guard (stores.hasEnoughRank s talentInfo)
  let spent := if 0 < talentInfo.row then stores.spentPoints s talentInfo.talentTab else 0
  guard (talentInfo.row * BitVec.ofNat 32 maxRank ≤ spent)
  guard (talentInfo.rankID talentRank.toNat ≠ 0)
  guard (!s.hasSpell (talentInfo.rankID talentRank.toNat))
  return (talentInfo, cost)

/-- A request; nothing happens when it does not pass the checks. -/
def learn (request : ℕ × BitVec 32) : TalentState :=
  match stores.checkTalent maxRank mayLearn s request.1 request.2 with
  | none => s
  | some (talentInfo, cost) =>
    { freeTalentPoints := s.freeTalentPoints - cost
      hasSpell := learnSpell s.hasSpell talentInfo (talentInfo.rankID request.2.toNat) }

def classMayLearn (classMask : BitVec 32) (talentTabInfo : TalentTabEntry) : Bool :=
  classMask &&& talentTabInfo.classMask != 0

/-- **`LearnTalent`**, of a player with this class mask. -/
def learnTalent (classMask : BitVec 32) : TalentState → ℕ × BitVec 32 → TalentState :=
  stores.learn maxTalentRank (classMayLearn classMask)

/-- May a pet of the family with this `petTalentType` learn the talents of the tab? -/
def petMayLearn (petTalentType : ℤ) (talentTabInfo : TalentTabEntry) : Bool :=
  !decide (petTalentType < 0) &&
    (1#32 <<< petTalentType.toNat) &&& talentTabInfo.petTalentMask != 0

/-- **`LearnPetTalent`**, of the player's pet: its guid, and the `petTalentType` of its family, if
it has one. -/
def learnPetTalent (pet : Option (BitVec 64 × Option ℤ)) (s : TalentState)
    (request : BitVec 64 × ℕ × BitVec 32) : TalentState :=
  match pet with
  | none => s
  | some (guid, petTalentType) =>
    if request.1 ≠ guid then s
    else stores.learn maxPetTalentRank (fun talentTabInfo =>
      petTalentType.any (petMayLearn · talentTabInfo)) s request.2

/-! ## Legal trees -/

/-- **The trees are legal**: the points are accounted for, and every known talent may be known. -/
structure Legal (mayLearn : TalentTabEntry → Bool) (each : ℕ) (total : BitVec 32)
    (s : TalentState) : Prop where
  /-- No talent is known at two ranks. -/
  oneRank : ∀ id talentInfo, stores.talent id = some talentInfo →
    ∀ rank < maxTalentRank, ∀ rank' < maxTalentRank, knowsRank s.hasSpell talentInfo rank →
      knowsRank s.hasSpell talentInfo rank' → rank = rank'
  points : s.freeTalentPoints.toNat + ∑ id ∈ range stores.numRows, stores.points s id =
    total.toNat
  tab : ∀ id talentInfo, stores.talent id = some talentInfo →
    ∀ rank < maxTalentRank, knowsRank s.hasSpell talentInfo rank →
      ∃ talentTabInfo, stores.tab talentInfo.talentTab = some talentTabInfo ∧
        mayLearn talentTabInfo = true
  prerequisite : ∀ id talentInfo, stores.talent id = some talentInfo →
    ∀ rank < maxTalentRank, knowsRank s.hasSpell talentInfo rank → 0 < talentInfo.dependsOn →
      ∀ depTalentInfo, stores.talent talentInfo.dependsOn = some depTalentInfo →
        ∃ rank' < maxTalentRank, talentInfo.dependsOnRank ≤ rank' ∧
          knowsRank s.hasSpell depTalentInfo rank'
  /-- So many points for each row are spent in the rows above. -/
  rows : ∀ tTab, Tiered (stores.talentsOf tTab) stores.rowOf each (stores.points s)

/-- **The product does not let a request pass** that has too few points for its row. -/
def RowCompared (maxRank : ℕ) (s : TalentState) (request : ℕ × BitVec 32) : Prop :=
  ∀ talentInfo, stores.talent request.1 = some talentInfo →
    (stores.spentPoints s talentInfo.talentTab).toNat < talentInfo.row.toNat * maxRank →
      stores.spentPoints s talentInfo.talentTab < talentInfo.row * BitVec.ofNat 32 maxRank

variable {stores} {maxRank} {mayLearn} {s} {talentId : ℕ} {talentRank : BitVec 32}
  {talentInfo : TalentEntry} {cost total : BitVec 32}

/-- What a request has passed. -/
structure Passed (stores : TalentStores) (maxRank : ℕ) (mayLearn : TalentTabEntry → Bool)
    (s : TalentState) (talentId : ℕ) (talentRank : BitVec 32) (talentInfo : TalentEntry)
    (cost : BitVec 32) : Prop where
  rank : talentRank.toNat < maxRank
  talent : stores.talent talentId = some talentInfo
  tab : ∃ talentTabInfo, stores.tab talentInfo.talentTab = some talentTabInfo ∧
    mayLearn talentTabInfo = true
  higher : curtalentMaxrank s.hasSpell talentInfo < talentRank.toNat + 1
  cost_eq : cost = talentRank - BitVec.ofNat 32 (curtalentMaxrank s.hasSpell talentInfo) + 1
  paid : cost ≤ s.freeTalentPoints
  prerequisite : stores.hasEnoughRank s talentInfo = true
  row : talentInfo.row * BitVec.ofNat 32 maxRank ≤
    if 0 < talentInfo.row then stores.spentPoints s talentInfo.talentTab else 0
  spell : talentInfo.rankID talentRank.toNat ≠ 0

theorem passed_of_checkTalent
    (h : stores.checkTalent maxRank mayLearn s talentId talentRank = some (talentInfo, cost)) :
    stores.Passed maxRank mayLearn s talentId talentRank talentInfo cost := by
  simp only [checkTalent, Option.bind_eq_bind, Option.bind_eq_some_iff, Option.guard_eq_some',
    Option.pure_def, Option.some.injEq, Prod.mk.injEq] at h
  obtain ⟨-, -, -, hrank, talentInfo', htalent, tab, htab, -, hmay, -, hhigher, -, hpaid, -, hdep,
    -, hrow, -, hspell, -, -, rfl, rfl⟩ := h
  exact ⟨hrank, htalent, ⟨tab, htab, hmay⟩, hhigher, rfl, hpaid, hdep, hrow, hspell⟩

/-! ## Which ranks are known -/

theorem knowsRank_iff {hasSpell : BitVec 32 → Bool} {rank : ℕ} :
    knowsRank hasSpell talentInfo rank = true ↔
      talentInfo.rankID rank ≠ 0 ∧ hasSpell (talentInfo.rankID rank) = true := by
  simp [knowsRank]

/-- The highest known rank is the only one, so that it says how many points were spent. -/
theorem curtalentMaxrank_eq {hasSpell : BitVec 32 → Bool}
    (hone : ∀ rank < maxTalentRank, ∀ rank' < maxTalentRank, knowsRank hasSpell talentInfo rank →
      knowsRank hasSpell talentInfo rank' → rank = rank') :
    curtalentMaxrank hasSpell talentInfo = spentFor hasSpell talentInfo := by
  rw [curtalentMaxrank, spentFor]
  cases hfind : (List.range maxTalentRank).reverse.find? (knowsRank hasSpell talentInfo) with
  | none =>
    have hnone : ∀ rank ∈ range maxTalentRank, ¬knowsRank hasSpell talentInfo rank = true := by
      simpa using hfind
    exact (sum_eq_zero fun rank hrank => if_neg (hnone rank hrank)).symm
  | some rank =>
    have hknows : knowsRank hasSpell talentInfo rank = true := List.find?_some hfind
    have hrank : rank < maxTalentRank := by simpa using List.mem_of_find?_eq_some hfind
    rw [sum_eq_single_of_mem rank (mem_range.mpr hrank) fun rank' hrank' hne =>
      if_neg fun hknows' =>
      hne (hone rank' (mem_range.mp hrank') rank hrank hknows' hknows), if_pos hknows]

/-! ## One request -/

/-- The state after a request that has passed. -/
def afterLearn (s : TalentState) (talentInfo : TalentEntry) (talentRank cost : BitVec 32) :
    TalentState where
  freeTalentPoints := s.freeTalentPoints - cost
  hasSpell := learnSpell s.hasSpell talentInfo (talentInfo.rankID talentRank.toNat)

theorem learn_cases (request : ℕ × BitVec 32) :
    stores.learn maxRank mayLearn s request = s ∨ ∃ talentInfo cost,
      stores.Passed maxRank mayLearn s request.1 request.2 talentInfo cost ∧
        stores.learn maxRank mayLearn s request = afterLearn s talentInfo request.2 cost := by
  rw [learn]
  cases hcheck : stores.checkTalent maxRank mayLearn s request.1 request.2 with
  | none => exact .inl rfl
  | some passed => exact .inr ⟨passed.1, passed.2, passed_of_checkTalent hcheck, rfl⟩

section Step

variable (hlegal : stores.Legal mayLearn maxRank total s)
  (hpassed : stores.Passed maxRank mayLearn s talentId talentRank talentInfo cost)
  (hmax : maxRank ≤ maxTalentRank)

include hpassed

theorem Passed.mem_range : talentId ∈ range stores.numRows :=
  Finset.mem_range.mpr (stores.lt_numRows _ _ hpassed.talent)

include hmax

theorem Passed.rank_lt : talentRank.toNat < maxTalentRank := hpassed.rank.trans_le hmax

theorem knowsRank_learned {rank : ℕ} (hrank : rank < maxTalentRank) :
    knowsRank (afterLearn s talentInfo talentRank cost).hasSpell talentInfo rank = true ↔
      rank = talentRank.toNat := by
  rw [knowsRank_iff]
  constructor
  · rintro ⟨hne, hhas⟩
    by_contra hother
    have hspell : talentInfo.rankID rank ≠ talentInfo.rankID talentRank.toNat := by
      intro heq
      exact hother (stores.rankID_inj _ _ _ _ hpassed.talent hpassed.talent rank hrank _
        (hpassed.rank_lt hmax) heq hne).2
    have hany : (List.range maxTalentRank).any
        (fun r => talentInfo.rankID r == talentInfo.rankID rank) = true :=
      List.any_eq_true.mpr ⟨rank, List.mem_range.mpr hrank, beq_self_eq_true _⟩
    simp [afterLearn, learnSpell, hspell, hany] at hhas
  · rintro rfl
    exact ⟨hpassed.spell, by simp [afterLearn, learnSpell]⟩

theorem knowsRank_other {id rank : ℕ} {other : TalentEntry} (hother : stores.talent id = some other)
    (hid : id ≠ talentId) (hrank : rank < maxTalentRank) :
    knowsRank (afterLearn s talentInfo talentRank cost).hasSpell other rank =
      knowsRank s.hasSpell other rank := by
  by_cases hzero : other.rankID rank = 0
  · simp [knowsRank, hzero]
  · have hne : ∀ r < maxTalentRank, talentInfo.rankID r ≠ other.rankID rank := by
      intro r hr heq
      exact hid (stores.rankID_inj _ _ _ _ hother hpassed.talent rank hrank r hr heq.symm hzero).1
    have hany : (List.range maxTalentRank).any
        (fun r => talentInfo.rankID r == other.rankID rank) = false := by
      simpa using hne
    have hspell : (other.rankID rank == talentInfo.rankID talentRank.toNat) = false := by
      simpa using (hne _ (hpassed.rank_lt hmax)).symm
    simp [knowsRank, afterLearn, learnSpell, hspell, hany]

theorem points_learned :
    stores.points (afterLearn s talentInfo talentRank cost) talentId = talentRank.toNat + 1 := by
  have hrank := hpassed.rank_lt hmax
  rw [points, hpassed.talent]
  dsimp only
  rw [spentFor, sum_eq_single_of_mem talentRank.toNat (Finset.mem_range.mpr hrank)]
  · rw [if_pos ((knowsRank_learned hpassed hmax hrank).mpr rfl)]
  · intro rank hrank hne
    rw [if_neg]
    intro hknows
    exact hne ((knowsRank_learned hpassed hmax (Finset.mem_range.mp hrank)).mp hknows)

theorem points_other {id : ℕ} (hid : id ≠ talentId) :
    stores.points (afterLearn s talentInfo talentRank cost) id = stores.points s id := by
  rw [points, points]
  cases hother : stores.talent id with
  | none => rfl
  | some other =>
    refine sum_congr rfl fun rank hrank => ?_
    rw [knowsRank_other hpassed hmax hother hid (Finset.mem_range.mp hrank)]

include hlegal

omit hmax in
theorem curtalentMaxrank_eq_points :
    curtalentMaxrank s.hasSpell talentInfo = stores.points s talentId := by
  rw [curtalentMaxrank_eq (hlegal.oneRank _ _ hpassed.talent), points, hpassed.talent]

theorem cost_toNat : cost.toNat + stores.points s talentId = talentRank.toNat + 1 := by
  have hrank : talentRank.toNat < 5 := hpassed.rank_lt hmax
  have hhigher := hpassed.higher
  rw [hpassed.cost_eq]
  rw [curtalentMaxrank_eq_points hlegal hpassed] at hhigher ⊢
  bv_omega

theorem knowsRank_higher {id rank : ℕ} {other : TalentEntry}
    (hother : stores.talent id = some other) (hrank : rank < maxTalentRank)
    (hknows : knowsRank s.hasSpell other rank = true) :
    ∃ rank' < maxTalentRank, rank ≤ rank' ∧
      knowsRank (afterLearn s talentInfo talentRank cost).hasSpell other rank' = true := by
  by_cases hid : id = talentId
  · subst hid
    obtain rfl := Option.some.inj (hother.symm.trans hpassed.talent)
    have hpoints : rank + 1 ≤ stores.points s id := by
      rw [points, hother]
      have hterm := single_le_sum (fun r _ => Nat.zero_le _) (Finset.mem_range.mpr hrank)
        (f := fun r => if knowsRank s.hasSpell other r then r + 1 else 0)
      rwa [if_pos hknows] at hterm
    have hhigher := hpassed.higher
    rw [curtalentMaxrank_eq_points hlegal hpassed] at hhigher
    exact ⟨talentRank.toNat, hpassed.rank_lt hmax, by omega,
      (knowsRank_learned hpassed hmax (hpassed.rank_lt hmax)).mpr rfl⟩
  · exact ⟨rank, hrank, le_rfl, (knowsRank_other hpassed hmax hother hid hrank).trans hknows⟩

theorem prerequisite_known {depTalentInfo : TalentEntry} (hdepends : 0 < talentInfo.dependsOn)
    (hdep : stores.talent talentInfo.dependsOn = some depTalentInfo) :
    ∃ rank < maxTalentRank, talentInfo.dependsOnRank ≤ rank ∧
      knowsRank (afterLearn s talentInfo talentRank cost).hasSpell depTalentInfo rank = true := by
  have henough := hpassed.prerequisite
  have hsmall := stores.dependsOnRank_lt _ _ hpassed.talent
  simp only [hasEnoughRank, if_pos hdepends, hdep, List.any_eq_true, List.mem_range,
    Bool.and_eq_true, decide_eq_true_eq] at henough
  obtain ⟨rank, hrank, hle, hknows⟩ := henough
  rw [Nat.mod_eq_of_lt (hsmall.trans (by decide))] at hle
  obtain ⟨rank', hrank', hle', hknows'⟩ :=
    knowsRank_higher hlegal hpassed hmax hdep hrank hknows
  exact ⟨rank', hrank', hle.trans hle', hknows'⟩

theorem sum_points : ∑ id ∈ range stores.numRows,
      stores.points (afterLearn s talentInfo talentRank cost) id =
    ∑ id ∈ range stores.numRows, stores.points s id + cost.toNat := by
  have hmem := hpassed.mem_range
  have hrest : ∑ id ∈ (range stores.numRows).erase talentId,
      stores.points (afterLearn s talentInfo talentRank cost) id =
      ∑ id ∈ (range stores.numRows).erase talentId, stores.points s id :=
    sum_congr rfl fun id hid => points_other hpassed hmax (ne_of_mem_erase hid)
  rw [← add_sum_erase _ _ hmem, ← add_sum_erase _ (stores.points s) hmem, hrest,
    points_learned hpassed hmax, ← cost_toNat hlegal hpassed hmax]
  omega

omit hpassed hmax in
theorem spentPoints_toNat (tTab : ℕ) : (stores.spentPoints s tTab).toNat =
    ∑ id ∈ stores.talentsOf tTab, stores.points s id := by
  have hle : ∑ id ∈ stores.talentsOf tTab, stores.points s id ≤
      ∑ id ∈ range stores.numRows, stores.points s id :=
    sum_le_sum_of_subset (filter_subset _ _)
  have hpoints := hlegal.points
  rw [spentPoints, BitVec.toNat_ofNat, Nat.mod_eq_of_lt]
  omega

omit hmax in
theorem enough_points (hrow : stores.RowCompared maxRank s (talentId, talentRank)) :
    maxRank * stores.rowOf talentId ≤
      ∑ id ∈ stores.talentsOf talentInfo.talentTab, stores.points s id := by
  have hcheck := hpassed.row
  rw [rowOf, hpassed.talent]
  split_ifs at hcheck with hpos
  · rw [← spentPoints_toNat hlegal, Nat.mul_comm]
    by_contra hless
    have hrefused := hrow talentInfo hpassed.talent (Nat.lt_of_not_le hless)
    exact absurd hcheck (BitVec.not_le.mpr hrefused)
  · have hzero : talentInfo.row.toNat = 0 := by bv_omega
    simp [hzero]

/-- **A request keeps the trees legal**, unless the product wraps around. -/
theorem Legal.afterLearn (hrow : stores.RowCompared maxRank s (talentId, talentRank)) :
    stores.Legal mayLearn maxRank total (afterLearn s talentInfo talentRank cost) where
  oneRank := by
    intro id other hother rank hrank rank' hrank' hknows hknows'
    by_cases hid : id = talentId
    · subst hid
      cases hother.symm.trans hpassed.talent
      rw [(knowsRank_learned hpassed hmax hrank).mp hknows,
        (knowsRank_learned hpassed hmax hrank').mp hknows']
    · rw [knowsRank_other hpassed hmax hother hid hrank] at hknows
      rw [knowsRank_other hpassed hmax hother hid hrank'] at hknows'
      exact hlegal.oneRank _ _ hother rank hrank rank' hrank' hknows hknows'
  points := by
    have hpoints := hlegal.points
    have hpaid := BitVec.le_def.mp hpassed.paid
    have hfree : (s.freeTalentPoints - cost).toNat = s.freeTalentPoints.toNat - cost.toNat :=
      BitVec.toNat_sub_of_le hpassed.paid
    rw [sum_points hlegal hpassed hmax]
    show (s.freeTalentPoints - cost).toNat + _ = _
    omega
  tab := by
    intro id other hother rank hrank hknows
    by_cases hid : id = talentId
    · subst hid
      cases hother.symm.trans hpassed.talent
      exact hpassed.tab
    · rw [knowsRank_other hpassed hmax hother hid hrank] at hknows
      exact hlegal.tab _ _ hother rank hrank hknows
  prerequisite := by
    intro id other hother rank hrank hknows hdepends dep hdep
    by_cases hid : id = talentId
    · subst hid
      cases hother.symm.trans hpassed.talent
      exact prerequisite_known hlegal hpassed hmax hdepends hdep
    · rw [knowsRank_other hpassed hmax hother hid hrank] at hknows
      obtain ⟨rank', hrank', hle, hknows'⟩ :=
        hlegal.prerequisite _ _ hother rank hrank hknows hdepends dep hdep
      obtain ⟨rank'', hrank'', hle', hknows''⟩ :=
        knowsRank_higher hlegal hpassed hmax hdep hrank' hknows'
      exact ⟨rank'', hrank'', hle.trans hle', hknows''⟩
  rows := by
    intro tTab
    by_cases htab : talentInfo.talentTab = tTab
    · subst htab
      refine (hlegal.rows _).raise (enough_points hlegal hpassed hrow) ?_
        fun id hid => points_other hpassed hmax hid
      have hcost := cost_toNat hlegal hpassed hmax
      rw [points_learned hpassed hmax]
      omega
    · -- the talent is none of the tab
      refine (hlegal.rows tTab).congr fun id hid => points_other hpassed hmax ?_
      rintro rfl
      have hof := (mem_filter.mp hid).2
      rw [hpassed.talent, Option.any_some, beq_iff_eq] at hof
      exact htab hof

end Step

/-! ## Any number of requests -/

/-- No talent is known. -/
def NoTalents (stores : TalentStores) (s : TalentState) : Prop :=
  ∀ id talentInfo, stores.talent id = some talentInfo →
    ∀ rank < maxTalentRank, knowsRank s.hasSpell talentInfo rank = false

theorem NoTalents.points_eq_zero (hnone : stores.NoTalents s) (id : ℕ) :
    stores.points s id = 0 := by
  rw [points]
  cases htalent : stores.talent id with
  | none => rfl
  | some talentInfo =>
    refine sum_eq_zero fun rank hrank => ?_
    simp [hnone _ _ htalent rank (Finset.mem_range.mp hrank)]

theorem NoTalents.legal (hnone : stores.NoTalents s) (each : ℕ) :
    stores.Legal mayLearn each s.freeTalentPoints s where
  oneRank := by
    intro id talentInfo htalent rank hrank rank' _ hknows
    simp [hnone _ _ htalent rank hrank] at hknows
  points := by simp [hnone.points_eq_zero]
  tab := by
    intro id talentInfo htalent rank hrank hknows
    simp [hnone _ _ htalent rank hrank] at hknows
  prerequisite := by
    intro id talentInfo htalent rank hrank hknows
    simp [hnone _ _ htalent rank hrank] at hknows
  rows := by
    intro tTab id _ hpoints
    simp [hnone.points_eq_zero] at hpoints

theorem Legal.learn (hlegal : stores.Legal mayLearn maxRank total s)
    (hmax : maxRank ≤ maxTalentRank)
    {request : ℕ × BitVec 32} (hrow : stores.RowCompared maxRank s request) :
    stores.Legal mayLearn maxRank total (stores.learn maxRank mayLearn s request) := by
  rcases stores.learn_cases (s := s) request with hsame | ⟨talentInfo, cost, hpassed, hlearn⟩
  · rw [hsame]
    exact hlegal
  · rw [hlearn]
    exact hlegal.afterLearn hpassed hmax hrow

/-- **The talents of a player** stay legal, whatever the client requests. -/
theorem learnTalent_legal (stores : TalentStores) (classMask : BitVec 32) (start : TalentState)
    (requests : List (ℕ × BitVec 32)) (hnone : stores.NoTalents start)
    (hrow : Admissible (stores.learnTalent classMask) (stores.RowCompared maxTalentRank) start
      requests) :
    stores.Legal (classMayLearn classMask) maxTalentRank start.freeTalentPoints
      (run (stores.learnTalent classMask) start requests) := by
  apply run_invariant _ _ (hnone.legal maxTalentRank) hrow
  intro s request hlegal hcompared
  exact hlegal.learn le_rfl hcompared

/-- The talents 1 and 2 of a tab for the first class: one of the first row, and one of this row. -/
def twoTalents (row : BitVec 32) : TalentStores where
  numRows := 3
  talent := fun id =>
    if id = 1 ∨ id = 2 then
      some { talentTab := 1
             row := if id = 1 then 0 else row
             rankID := fun rank => BitVec.ofNat 32 (100 * id + rank)
             dependsOn := 0
             dependsOnRank := 0 }
    else none
  tab := fun tTab => if tTab = 1 then some ⟨1, 0⟩ else none
  lt_numRows := by
    intro id talentInfo h
    have hid := (Option.ite_none_right_eq_some.mp h).1
    omega
  rankID_inj := by
    intro id id' talentInfo talentInfo' h h' rank hrank rank' hrank' heq _
    simp only [maxTalentRank] at hrank hrank'
    obtain ⟨hid, h⟩ := Option.ite_none_right_eq_some.mp h
    obtain ⟨hid', h'⟩ := Option.ite_none_right_eq_some.mp h'
    cases h
    cases h'
    have hnat := congrArg BitVec.toNat heq
    rw [BitVec.toNat_ofNat, BitVec.toNat_ofNat, Nat.mod_eq_of_lt (by omega),
      Nat.mod_eq_of_lt (by omega)] at hnat
    omega
  dependsOnRank_lt := by
    intro id talentInfo h
    obtain rfl := Option.some.inj (Option.ite_none_right_eq_some.mp h).2
    exact Nat.succ_pos _

theorem rowCompared_of_lt {request : ℕ × BitVec 32}
    (hsmall : ∀ talentInfo, stores.talent request.1 = some talentInfo →
      talentInfo.row.toNat * maxRank < 2 ^ 32) (hmax : maxRank < 2 ^ 32) :
    stores.RowCompared maxRank s request := by
  intro talentInfo htalent hless
  have hproduct : (talentInfo.row * BitVec.ofNat 32 maxRank).toNat =
      talentInfo.row.toNat * maxRank := by
    rw [BitVec.toNat_mul, BitVec.toNat_ofNat, Nat.mod_eq_of_lt hmax,
      Nat.mod_eq_of_lt (hsmall talentInfo htalent)]
  rwa [BitVec.lt_def, hproduct]

/-- A talent of the second row is learned after five points of the first. -/
theorem learnTalent_legal_secondRow :
    (twoTalents 1).Legal (classMayLearn 1) maxTalentRank 6
      (run ((twoTalents 1).learnTalent 1) ⟨6, fun _ => false⟩ [(1, 4), (2, 0)]) := by
  have hrow : ∀ s request, (twoTalents 1).RowCompared maxTalentRank s request := by
    intro s request
    apply rowCompared_of_lt
    · intro talentInfo htalent
      obtain rfl := Option.some.inj (Option.ite_none_right_eq_some.mp htalent).2
      dsimp only
      split_ifs <;> decide
    · decide
  have hnone : (twoTalents 1).NoTalents ⟨6, fun _ => false⟩ := by
    intro id talentInfo _ rank _
    simp [knowsRank]
  exact learnTalent_legal (twoTalents 1) 1 ⟨6, fun _ => false⟩ [(1, 4), (2, 0)] hnone
    ⟨hrow _ _, hrow _ _, trivial⟩

/-- One point is enough for a row whose product wraps around to 1. -/
theorem not_legal_wrappedRow :
    let stores := twoTalents 3435973837
    stores.NoTalents ⟨2, fun _ => false⟩ ∧
      ¬stores.Legal (classMayLearn 1) maxTalentRank 2
        (run (stores.learnTalent 1) ⟨2, fun _ => false⟩ [(1, 0), (2, 0)]) := by
  intro stores
  refine ⟨fun id talentInfo _ rank _ => by simp [knowsRank], fun hlegal => ?_⟩
  have hrows := hlegal.rows 1 2 (by decide +kernel) (by decide +kernel)
  revert hrows
  decide +kernel

/-- **The talents of a pet** stay legal, too. -/
theorem learnPetTalent_legal (stores : TalentStores) (guid : BitVec 64)
    (petTalentType : Option ℤ) (start : TalentState)
    (requests : List (BitVec 64 × ℕ × BitVec 32)) (hnone : stores.NoTalents start)
    (hrow : Admissible (stores.learnPetTalent (some (guid, petTalentType)))
      (fun s request => stores.RowCompared maxPetTalentRank s request.2) start requests) :
    stores.Legal (fun talentTabInfo => petTalentType.any (petMayLearn · talentTabInfo))
      maxPetTalentRank start.freeTalentPoints
      (run (stores.learnPetTalent (some (guid, petTalentType))) start requests) := by
  apply run_invariant _ _ (hnone.legal maxPetTalentRank) hrow
  intro s request hlegal hcompared
  rw [learnPetTalent]
  split_ifs
  · exact hlegal
  · exact hlegal.learn (by decide) hcompared

theorem learnPetTalent_legal_firstRow :
    let stores := { twoTalents 1 with tab := fun _ => some ⟨0, 1⟩ }
    stores.Legal (fun talentTabInfo => (some 0).any (petMayLearn · talentTabInfo)) maxPetTalentRank
      6 (run (stores.learnPetTalent (some (7, some 0))) ⟨6, fun _ => false⟩ [(7, 1, 2)]) := by
  intro stores
  refine learnPetTalent_legal stores 7 (some 0) ⟨6, fun _ => false⟩ [(7, 1, 2)]
    (fun id talentInfo _ rank _ => by simp [knowsRank]) ⟨?_, trivial⟩
  refine rowCompared_of_lt (fun talentInfo htalent => ?_) (by decide)
  cases htalent
  decide

end TalentStores

end TeraCore
