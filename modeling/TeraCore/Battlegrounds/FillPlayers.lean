import TeraCore.Battlegrounds.SelectionPools
import TeraCore.Commons.Loop

/-!
# Battlegrounds: players for a battleground that is running

The free slots of a running battleground are filled from the normal lists.  Each side takes groups
while there is room.  If the invitations are to be balanced, the free slots that would be left are
compared, and as long as they differ by more than one the side that would have fewer gives groups
back, large ones first, and may take others instead.

Every turn gives a group back or goes on in a list, so the loop ends.  It ends with sides that are
balanced, or with no more to give back on the side with fewer slots.

## Main results

* `fillPlayersToBG_fills`: it ends, with what may be selected, and balanced
-/

namespace TeraCore

open Commons

/-- A pool with what its iterator has not gone by. -/
structure FillSide where
  pool : SelectionPool
  left : List ℕ
  deriving DecidableEq

namespace BattlegroundQueue

variable (q : BattlegroundQueue)

/-- The loop of a side: `AddGroup` while it wants more groups.  It looks at invited groups too. -/
def addGroups (desiredCount : ℕ) : List ℕ → SelectionPool → FillSide
  | [], pool => ⟨pool, []⟩
  | group :: rest, pool =>
    match pool.addGroup group (q.ginfo group) desiredCount with
    | (true, pool) => addGroups desiredCount rest pool
    | (false, pool) => ⟨pool, group :: rest⟩

/-- The place of the group to kick: the last one that has about the size, or else the last one of
the largest.  It is known with its size. -/
def groupToKick (size : ℕ) : List ℕ → (place : ℕ) → (toKick : ℕ × ℕ) → (found : Bool) → ℕ
  | [], _, toKick, _ => toKick.1
  | group :: rest, place, toKick, found =>
    let players := q.groupSize group
    if ((players : ℤ) - size).natAbs ≤ 1 then
      groupToKick size rest (place + 1) (place, players) true
    else if found = false ∧ toKick.2 ≤ players then
      groupToKick size rest (place + 1) (place, players) found
    else groupToKick size rest (place + 1) toKick found

/-- **`KickGroup`**: should new groups be added, because more players were kicked than wanted? -/
def kickGroup (pool : SelectionPool) (size : ℕ) : Bool × SelectionPool :=
  let place := q.groupToKick size pool.selectedGroups 0
    (0, (pool.selectedGroups.head?.map q.groupSize).getD 0) false
  if pool.playerCount = 0 then (true, pool)
  else
    match pool.selectedGroups[place]? with
    | none => (true, pool)
    | some group =>
      (decide (size + 1 < q.groupSize group),
        ⟨pool.selectedGroups.eraseIdx place, pool.playerCount - q.groupSize group⟩)

variable (free : Team → ℕ) (sides : Team → FillSide)

/-- The slots that stay free. -/
def freeLeft (team : Team) : ℤ :=
  free team - (sides team).pool.playerCount

/-- One of the sides is changed. -/
def setSide (sides : Team → FillSide) (team : Team) (side : FillSide) : Team → FillSide :=
  fun team' => if team' = team then side else sides team'

/-- The side that gives groups back: the one with fewer slots left. -/
def tighter : Team :=
  if freeLeft free sides .alliance < freeLeft free sides .horde then .alliance else .horde

/-- The kick of the side with fewer slots left, and the groups that it takes instead. -/
def kickAndRefill (team : Team) (size : ℕ) : FillSide :=
  let kicked := q.kickGroup (sides team).pool size
  if kicked.1 then
    q.addGroups (if freeLeft free sides team.other ≤ free team then
      (free team - freeLeft free sides team.other).toNat else 0) (sides team).left kicked.2
  else ⟨kicked.2, (sides team).left⟩

/-- A turn of the loop that balances the sides. -/
def balanceTurn : Turn (Team → FillSide) (Team → FillSide) :=
  let diff := freeLeft free sides
  if 1 < (diff .alliance - diff .horde).natAbs ∧
      (0 < (sides .horde).pool.playerCount ∨ 0 < (sides .alliance).pool.playerCount) then
    let team := tighter free sides
    let size := (diff team.other - diff team).toNat
    let side := q.kickAndRefill free sides team size
    if side.pool.playerCount = 0 then
      if (free team : ℤ) ≤ diff team.other + 1 then .leave (setSide sides team side)
      else
        .goOn (setSide (setSide sides team side) team.other
          { sides team.other with pool := (q.kickGroup (sides team.other).pool size).2 })
    else .goOn (setSide sides team side)
  else .leave sides

/-- Both pools as they are after the loop. -/
def setPools (sides : Team → FillSide) : BattlegroundQueue :=
  (q.setPool .alliance (sides .alliance).pool).setPool .horde (sides .horde).pool

/-- **`FillPlayersToBG`**, with the free slots of either team, to a number of turns.  The template
of a battleground has at most 65535 players in a team, so none of the counts wraps. -/
def fillPlayersToBG (turns : ℕ) (free : Team → ℕ) (balanced : Bool) (bracketId : ℕ) :
    Option BattlegroundQueue :=
  let sides team :=
    q.addGroups (free team) (q.queuedGroups bracketId (bgQueueNormal team)) (q.selectionPools team)
  if balanced then (loop (q.balanceTurn free) turns sides).map q.setPools
  else some (q.setPools sides)

/-! ## One side -/

/-- **A side that has filled its pool from the front of its list.** -/
def Filled (q : BattlegroundQueue) (groups : List ℕ) (limit : ℕ) (side : FillSide) : Prop :=
  ∃ scanned, groups = scanned ++ side.left ∧ Selected q scanned limit side.pool

/-- What a turn makes less: the groups ahead count twice, and those that may be given back once. -/
def weight (side : FillSide) : ℕ := 2 * side.left.length + side.pool.selectedGroups.length

variable {q} {groups seen : List ℕ} {limit desiredCount size : ℕ} {pool : SelectionPool}
  {side : FillSide}

theorem Filled.selected (h : Filled q groups limit side) : Selected q groups limit side.pool := by
  obtain ⟨scanned, hscanned, hselected⟩ := h
  refine hselected.mono ?_ (le_refl _)
  rw [hscanned]
  exact List.sublist_append_left _ _

theorem addGroups_spec (hdesired : desiredCount ≤ limit) :
    ∀ (groups seen : List ℕ) (pool : SelectionPool), Selected q seen limit pool →
      ∃ scanned, groups = scanned ++ (q.addGroups desiredCount groups pool).left ∧
        Selected q (seen ++ scanned) limit (q.addGroups desiredCount groups pool).pool
  | [], seen, pool, h => ⟨[], rfl, by
      rw [List.append_nil]
      exact h⟩
  | group :: rest, seen, pool, h => by
    have hadded : Selected q (seen ++ [group]) limit
        (pool.addGroup group (q.ginfo group) desiredCount).2 := h.addGroup hdesired
    rw [addGroups]
    rcases hpool : pool.addGroup group (q.ginfo group) desiredCount with ⟨more, pool'⟩
    rw [hpool] at hadded
    cases more with
    | true =>
      obtain ⟨scanned, hscanned, hselected⟩ := addGroups_spec hdesired rest _ pool' hadded
      refine ⟨group :: scanned, congrArg _ hscanned, ?_⟩
      rw [List.append_cons]
      exact hselected
    | false =>
      -- The group was not added, and the iterator stays at it.
      refine ⟨[], rfl, ?_⟩
      rw [List.append_nil]
      rw [SelectionPool.addGroup] at hpool
      split_ifs at hpool
      · cases hpool
      · rw [Prod.mk.injEq] at hpool
        rw [← hpool.2]
        exact h

theorem addGroups_playerCount_le (q : BattlegroundQueue) (desiredCount : ℕ) :
    ∀ (groups : List ℕ) (pool : SelectionPool),
      (q.addGroups desiredCount groups pool).pool.playerCount ≤ max pool.playerCount desiredCount
  | [], pool => le_max_left _ _
  | group :: rest, pool => by
    have hadded := @addGroup_playerCount_le desiredCount q pool group
    rw [addGroups]
    rcases hpool : pool.addGroup group (q.ginfo group) desiredCount with ⟨more, pool'⟩
    rw [hpool] at hadded
    cases more with
    | true =>
      exact (addGroups_playerCount_le q desiredCount rest pool').trans
        (max_le hadded (le_max_right _ _))
    | false => exact hadded

theorem weight_addGroups (q : BattlegroundQueue) (desiredCount : ℕ) :
    ∀ (groups : List ℕ) (pool : SelectionPool),
      weight (q.addGroups desiredCount groups pool) ≤ weight ⟨pool, groups⟩
  | [], pool => le_refl _
  | group :: rest, pool => by
    have hadded : (pool.addGroup group (q.ginfo group) desiredCount).2.selectedGroups.length ≤
        pool.selectedGroups.length + 1 := by
      rw [SelectionPool.addGroup]
      split_ifs
      · rw [List.length_append, List.length_singleton]
      · exact Nat.le_succ _
    rw [addGroups]
    rcases hpool : pool.addGroup group (q.ginfo group) desiredCount with ⟨more, pool'⟩
    rw [hpool] at hadded
    cases more with
    | true =>
      refine (weight_addGroups q desiredCount rest pool').trans ?_
      simp only [weight, List.length_cons] at hadded ⊢
      omega
    | false =>
      rw [SelectionPool.addGroup] at hpool
      split_ifs at hpool
      · cases hpool
      · rw [Prod.mk.injEq] at hpool
        rw [← hpool.2]

/-! ## Giving back -/

theorem groupToKick_lt (q : BattlegroundQueue) (size : ℕ) : ∀ (groups : List ℕ) (place : ℕ)
    (toKick : ℕ × ℕ) (found : Bool), toKick.1 < place + groups.length →
      q.groupToKick size groups place toKick found < place + groups.length
  | [], _, _, _, h => h
  | group :: rest, place, toKick, found, h => by
    rw [groupToKick, List.length_cons, Nat.add_comm rest.length, ← Nat.add_assoc]
    rw [List.length_cons] at h
    split_ifs
    · exact groupToKick_lt q size rest (place + 1) _ true (by dsimp only; omega)
    · exact groupToKick_lt q size rest (place + 1) _ found (by dsimp only; omega)
    · exact groupToKick_lt q size rest (place + 1) toKick found (by omega)

theorem kickGroup_spec (h : Selected q seen limit pool) (hpool : pool.playerCount ≠ 0) (size : ℕ) :
    Selected q seen limit (q.kickGroup pool size).2 ∧
      (q.kickGroup pool size).2.selectedGroups.length + 1 = pool.selectedGroups.length := by
  have hne : pool.selectedGroups ≠ [] := by
    intro hnil
    rw [h.playerCount, hnil] at hpool
    exact hpool rfl
  have hlt : q.groupToKick size pool.selectedGroups 0
      (0, (pool.selectedGroups.head?.map q.groupSize).getD 0) false <
        pool.selectedGroups.length := by
    have := groupToKick_lt q size pool.selectedGroups 0
      (0, (pool.selectedGroups.head?.map q.groupSize).getD 0) false
        (by simpa using List.length_pos_iff.mpr hne)
    simpa using this
  rw [kickGroup, if_neg hpool]
  generalize q.groupToKick size pool.selectedGroups 0
    (0, (pool.selectedGroups.head?.map q.groupSize).getD 0) false = place at hlt
  rw [List.getElem?_eq_getElem hlt]
  have hsum : (pool.selectedGroups.map q.groupSize).sum = q.groupSize pool.selectedGroups[place] +
      ((pool.selectedGroups.eraseIdx place).map q.groupSize).sum := by
    rw [← ((List.getElem_cons_eraseIdx_perm hlt).map q.groupSize).sum_nat, List.map_cons,
      List.sum_cons]
  refine ⟨⟨?_, ?_, ?_, ?_⟩, ?_⟩
  · dsimp only
    rw [h.playerCount, hsum, Nat.add_sub_cancel_left]
  · exact (Nat.sub_le _ _).trans h.le
  · exact (List.eraseIdx_sublist _ _).trans h.sublist
  · exact fun group hgroup => h.uninvited group ((List.eraseIdx_sublist _ _).subset hgroup)
  · rw [List.length_eraseIdx_of_lt hlt]
    omega

theorem kickGroup_of_empty (hpool : pool.playerCount = 0) (size : ℕ) :
    q.kickGroup pool size = (true, pool) := by
  rw [kickGroup, if_pos hpool]

theorem Selected.kickGroup (h : Selected q seen limit pool) (size : ℕ) :
    Selected q seen limit (q.kickGroup pool size).2 ∧
      (q.kickGroup pool size).2.selectedGroups.length ≤ pool.selectedGroups.length := by
  by_cases hpool : pool.playerCount = 0
  · rw [kickGroup_of_empty hpool]
    exact ⟨h, le_refl _⟩
  · obtain ⟨hselected, hlength⟩ := kickGroup_spec h hpool size
    exact ⟨hselected, by omega⟩

/-! ## A turn -/

variable {free} {queue : Team → List ℕ} {sides} {team : Team}

theorem freeLeft_nonneg (h : ∀ team, Filled q (queue team) (free team) (sides team))
    (team : Team) : 0 ≤ freeLeft free sides team := by
  have hle := (h team).selected.le
  rw [freeLeft]
  omega

/-- **A side gives back and takes.**  It still has what it may have.  If it had players to give
back, it has come nearer to the end. -/
theorem kickAndRefill_spec (h : ∀ team, Filled q (queue team) (free team) (sides team))
    (team : Team) (size : ℕ) :
    Filled q (queue team) (free team) (q.kickAndRefill free sides team size) ∧
      weight (q.kickAndRefill free sides team size) ≤ weight (sides team) ∧
      ((sides team).pool.playerCount ≠ 0 →
        weight (q.kickAndRefill free sides team size) < weight (sides team)) := by
  obtain ⟨scanned, hscanned, hselected⟩ := h team
  obtain ⟨hkicked, hlength⟩ := hselected.kickGroup size
  have hnonneg := freeLeft_nonneg h team.other
  have hless : (sides team).pool.playerCount ≠ 0 →
      weight ⟨(q.kickGroup (sides team).pool size).2, (sides team).left⟩ < weight (sides team) := by
    intro hpool
    have := (kickGroup_spec hselected hpool size).2
    simp only [weight]
    omega
  have hle : weight ⟨(q.kickGroup (sides team).pool size).2, (sides team).left⟩ ≤
      weight (sides team) := by
    simp only [weight]
    omega
  rw [kickAndRefill]
  split_ifs with hmore hroom
  · obtain ⟨more, hmore', hadded⟩ := addGroups_spec
      (show (free team - freeLeft free sides team.other).toNat ≤ free team by omega)
      (sides team).left scanned _ hkicked
    have hweight := weight_addGroups q (free team - freeLeft free sides team.other).toNat
      (sides team).left (q.kickGroup (sides team).pool size).2
    exact ⟨⟨scanned ++ more, by rw [hscanned, List.append_assoc, ← hmore'], hadded⟩,
      hweight.trans hle, fun hpool => hweight.trans_lt (hless hpool)⟩
  · obtain ⟨more, hmore', hadded⟩ := addGroups_spec (Nat.zero_le (free team)) (sides team).left
      scanned _ hkicked
    have hweight := weight_addGroups q 0 (sides team).left (q.kickGroup (sides team).pool size).2
    exact ⟨⟨scanned ++ more, by rw [hscanned, List.append_assoc, ← hmore'], hadded⟩,
      hweight.trans hle, fun hpool => hweight.trans_lt (hless hpool)⟩
  · exact ⟨⟨scanned, hscanned, hkicked⟩, hle, hless⟩

theorem kickAndRefill_of_empty (hempty : (sides team).pool.playerCount = 0)
    (hless : (free team : ℤ) < freeLeft free sides team.other) (size : ℕ) :
    (q.kickAndRefill free sides team size).pool.playerCount = 0 := by
  rw [kickAndRefill, kickGroup_of_empty hempty, if_pos rfl,
    if_neg (not_le.mpr hless)]
  have := addGroups_playerCount_le q 0 (sides team).left (sides team).pool
  rw [hempty] at this
  simpa using this

variable (sides)

/-- What remains to be done: the turns that are left are fewer. -/
def fillMeasure : ℕ :=
  weight (sides .alliance) + weight (sides .horde)

theorem fillMeasure_eq (team : Team) :
    fillMeasure sides = weight (sides team) + weight (sides team.other) := by
  cases team
  · rfl
  · exact Nat.add_comm _ _

/-- **The sides are balanced**: if the slots that are left differ by more than one, the side with
fewer has nobody to give back. -/
def Balanced (free : Team → ℕ) (sides : Team → FillSide) : Prop :=
  1 < (freeLeft free sides .alliance - freeLeft free sides .horde).natAbs →
    ∀ team, freeLeft free sides team < freeLeft free sides team.other →
      (sides team).pool.playerCount = 0

variable (team side)

@[simp] theorem setSide_self : setSide sides team side team = side := if_pos rfl

@[simp] theorem setSide_other : setSide sides team side team.other = sides team.other :=
  if_neg (by cases team <;> decide)

@[simp] theorem setSide_back : setSide sides team.other side team = sides team :=
  if_neg (by cases team <;> decide)

variable {team side}

variable {sides}

theorem tighter_spec (hdiff : 1 < (freeLeft free sides .alliance -
    freeLeft free sides .horde).natAbs) :
    freeLeft free sides (tighter free sides) + 1 <
      freeLeft free sides (tighter free sides).other := by
  rw [tighter]
  split_ifs with hless
  · simp only [Team.other]
    omega
  · simp only [Team.other]
    omega

theorem freeLeft_eq_of_empty (free : Team → ℕ) (hempty : (sides team).pool.playerCount = 0) :
    freeLeft free sides team = free team := by
  rw [freeLeft, hempty]
  omega

variable {sides' : Team → FillSide}

section

variable (h : ∀ team, Filled q (queue team) (free team) (sides team))
include h

theorem goOn_emptied (htight : freeLeft free sides team + 1 < freeLeft free sides team.other)
    (hroom : ¬(free team : ℤ) ≤ freeLeft free sides team.other + 1) (size : ℕ) {side : FillSide}
    (hside : side = q.kickAndRefill free sides team size)
    (hsides' : setSide (setSide sides team side) team.other
      { sides team.other with pool := (q.kickGroup (sides team.other).pool size).2 } = sides') :
    (∀ team, Filled q (queue team) (free team) (sides' team)) ∧
      fillMeasure sides' < fillMeasure sides := by
  obtain ⟨hfilled, -, hless⟩ := kickAndRefill_spec h team size
  obtain ⟨scanned, hscanned, hselected⟩ := h team.other
  obtain ⟨hkicked, hlength⟩ := hselected.kickGroup size
  have hpool : (sides team).pool.playerCount ≠ 0 := by
    intro hempty
    have := freeLeft_eq_of_empty free hempty
    omega
  subst hside hsides'
  refine ⟨forall_side team ?_ ?_, ?_⟩
  · rw [setSide_back, setSide_self]
    exact hfilled
  · rw [setSide_self]
    exact ⟨scanned, hscanned, hkicked⟩
  · have hlessTeam := hless hpool
    rw [fillMeasure_eq _ team, fillMeasure_eq sides team, setSide_back, setSide_self, setSide_self]
    simp only [weight] at hlessTeam ⊢
    omega

theorem goOn_kept (htight : freeLeft free sides team + 1 < freeLeft free sides team.other)
    (size : ℕ) (hkept : (q.kickAndRefill free sides team size).pool.playerCount ≠ 0)
    (hsides' : setSide sides team (q.kickAndRefill free sides team size) = sides') :
    (∀ team, Filled q (queue team) (free team) (sides' team)) ∧
      fillMeasure sides' < fillMeasure sides := by
  obtain ⟨hfilled, -, hless⟩ := kickAndRefill_spec h team size
  have hpool : (sides team).pool.playerCount ≠ 0 := by
    intro hempty
    refine hkept (kickAndRefill_of_empty hempty ?_ size)
    have := freeLeft_eq_of_empty free hempty
    omega
  subst hsides'
  refine ⟨forall_side team ?_ ?_, ?_⟩
  · rw [setSide_self]
    exact hfilled
  · rw [setSide_other]
    exact h team.other
  · rw [fillMeasure_eq _ team, fillMeasure_eq sides team, setSide_self, setSide_other]
    exact Nat.add_lt_add_right (hless hpool) _

/-- **A turn that goes on** keeps to the lists, and comes nearer to the end. -/
theorem balanceTurn_goOn (hturn : q.balanceTurn free sides = .goOn sides') :
    (∀ team, Filled q (queue team) (free team) (sides' team)) ∧
      fillMeasure sides' < fillMeasure sides := by
  rw [balanceTurn] at hturn
  dsimp only at hturn
  split_ifs at hturn with hcond hzero hroom
  · exact goOn_emptied h (tighter_spec hcond.1) hroom _ rfl (Turn.goOn.inj hturn)
  · exact goOn_kept h (tighter_spec hcond.1) _ hzero (Turn.goOn.inj hturn)

theorem balanceTurn_leave (hturn : q.balanceTurn free sides = .leave sides') :
    (∀ team, Filled q (queue team) (free team) (sides' team)) ∧ Balanced free sides' := by
  rw [balanceTurn] at hturn
  dsimp only at hturn
  split_ifs at hturn with hcond hzero hroom
  · have htight := tighter_spec hcond.1
    have hsides' := Turn.leave.inj hturn
    generalize tighter free sides = team at hzero htight hroom hsides'
    generalize (freeLeft free sides team.other - freeLeft free sides team).toNat = size
      at hzero hsides'
    obtain ⟨hfilled, -, -⟩ := kickAndRefill_spec h team size
    subst hsides'
    refine ⟨forall_side team ?_ ?_, fun hdiff => ?_⟩
    · rw [setSide_self]
      exact hfilled
    · rw [setSide_other]
      exact h team.other
    · -- The side has nothing, so it has the fewer slots, or they differ by one at most.
      refine forall_side team (fun _ => ?_) fun hless => ?_
      · rw [setSide_self]
        exact hzero
      · exfalso
        have hother : freeLeft free (setSide sides team (q.kickAndRefill free sides team size))
            team.other = freeLeft free sides team.other := by
          rw [freeLeft, setSide_other, freeLeft]
        have hself : freeLeft free (setSide sides team (q.kickAndRefill free sides team size))
            team = free team := freeLeft_eq_of_empty free (by rw [setSide_self]; exact hzero)
        cases team <;> simp only [Team.other] at * <;> omega
  · have hsides' := Turn.leave.inj hturn
    subst hsides'
    refine ⟨h, fun hdiff team _ => ?_⟩
    cases team <;> omega

theorem balance_ends {turns : ℕ} (hturns : fillMeasure sides < turns) :
    ∃ sides', loop (q.balanceTurn free) turns sides = some sides' ∧
      (∀ team, Filled q (queue team) (free team) (sides' team)) ∧ Balanced free sides' :=
  loop_spec (q.balanceTurn free) (fun sides => ∀ team,
    Filled q (queue team) (free team) (sides team))
    _ fillMeasure (fun _ _ h hturn => balanceTurn_leave h hturn)
    (fun _ _ h hturn => balanceTurn_goOn h hturn) h hturns

end

/-! ## The function -/

/-- **The pools are filled fairly** for a battleground with the given free slots. -/
structure FilledFairly (q : BattlegroundQueue) (free : Team → ℕ) (balanced : Bool)
    (bracketId : ℕ) (q' : BattlegroundQueue) : Prop where
  playerCount : ∀ team, (q'.selectionPools team).playerCount =
    ((q'.selectionPools team).selectedGroups.map fun group => (q.ginfo group).players.size).sum
  room : ∀ team, (q'.selectionPools team).playerCount ≤ free team
  ofList : ∀ team, (q'.selectionPools team).selectedGroups.Sublist
    (q.queuedGroups bracketId (bgQueueNormal team))
  distinct : ∀ team, (q.queuedGroups bracketId (bgQueueNormal team)).Nodup →
    (q'.selectionPools team).selectedGroups.Nodup
  uninvited : ∀ team, ∀ group ∈ (q'.selectionPools team).selectedGroups,
    (q.ginfo group).isInvitedToBGInstanceGUID = 0
  balance : balanced = true → ∀ team : Team,
    ((free team : ℤ) - (q'.selectionPools team).playerCount) -
        (free team.other - (q'.selectionPools team.other).playerCount) ≤ 1 ∨
      (q'.selectionPools team.other).selectedGroups = []
  unchanged : q'.queuedGroups = q.queuedGroups ∧ q'.groups = q.groups

theorem selectionPools_setPools (q : BattlegroundQueue) (sides : Team → FillSide) (team : Team) :
    (q.setPools sides).selectionPools team = (sides team).pool := by
  cases team <;> rfl

theorem filledFairly_setPools {bracketId : ℕ} {balanced : Bool}
    (hne : ∀ team, ∀ group ∈ q.queuedGroups bracketId (bgQueueNormal team),
      (q.ginfo group).players.size ≠ 0)
    (h : ∀ team, Filled q (q.queuedGroups bracketId (bgQueueNormal team)) (free team) (sides team))
    (hbalanced : balanced = true → Balanced free sides) :
    FilledFairly q free balanced bracketId (q.setPools sides) := by
  refine ⟨fun team => ?_, fun team => ?_, fun team => ?_, fun team => ?_, fun team => ?_,
    fun hbalance team => ?_, rfl, rfl⟩
  · rw [selectionPools_setPools]
    exact (h team).selected.playerCount
  · rw [selectionPools_setPools]
    exact (h team).selected.le
  · rw [selectionPools_setPools]
    exact (h team).selected.sublist
  · rw [selectionPools_setPools]
    exact (h team).selected.nodup
  · rw [selectionPools_setPools]
    exact fun group hgroup => (uninvited_iff q group).mp ((h team).selected.uninvited group hgroup)
  · rw [selectionPools_setPools, selectionPools_setPools]
    by_cases hdiff : freeLeft free sides team - freeLeft free sides team.other ≤ 1
    · exact .inl hdiff
    · have hempty : (sides team.other).pool.playerCount = 0 := by
        refine hbalanced hbalance ?_ team.other ?_
        · cases team <;> simp only [Team.other] at hdiff <;> omega
        · cases team <;> simp only [Team.other] at hdiff ⊢ <;> omega
      right
      -- Groups have players, so a pool without players has no groups.
      rw [List.eq_nil_iff_forall_not_mem]
      intro group hgroup
      have hsum := (h team.other).selected.playerCount
      rw [hempty] at hsum
      refine hne team.other group ((h team.other).selected.sublist.subset hgroup) ?_
      exact List.sum_eq_zero_iff_forall_eq_nat.mp hsum.symm _ (List.mem_map_of_mem hgroup)

/-- **A running battleground is filled fairly, and the function ends**: from empty pools, whatever
is in the lists and free on the two sides. -/
theorem fillPlayersToBG_fills {bracketId : ℕ} (hpools : ∀ team, q.selectionPools team = .init)
    (hne : ∀ team, ∀ group ∈ q.queuedGroups bracketId (bgQueueNormal team),
      (q.ginfo group).players.size ≠ 0) (free : Team → ℕ) (balanced : Bool) :
    ∃ q', FilledFairly q free balanced bracketId q' ∧
      ∀ turns, 2 * ((q.queuedGroups bracketId (bgQueueNormal .alliance)).length +
          (q.queuedGroups bracketId (bgQueueNormal .horde)).length) < turns →
        q.fillPlayersToBG turns free balanced bracketId = some q' := by
  have hfilled : ∀ team, Filled q (q.queuedGroups bracketId (bgQueueNormal team)) (free team)
      (q.addGroups (free team) (q.queuedGroups bracketId (bgQueueNormal team))
        (q.selectionPools team)) := by
    intro team
    rw [hpools]
    exact addGroups_spec (le_refl _) _ [] _ (selected_init q [] _)
  cases balanced with
  | false =>
    exact ⟨_, filledFairly_setPools hne hfilled fun h => absurd h Bool.false_ne_true,
      fun _ _ => rfl⟩
  | true =>
    have hweight : ∀ team, weight (q.addGroups (free team)
        (q.queuedGroups bracketId (bgQueueNormal team)) (q.selectionPools team)) ≤
          2 * (q.queuedGroups bracketId (bgQueueNormal team)).length := by
      intro team
      rw [hpools]
      exact weight_addGroups q (free team) _ .init
    have hmeasure := Nat.add_le_add (hweight .alliance) (hweight .horde)
    obtain ⟨sides, hloop, hsides, hbalance⟩ := balance_ends hfilled (Nat.lt_succ_of_le hmeasure)
    refine ⟨_, filledFairly_setPools hne hsides fun _ => hbalance, fun turns hturns => ?_⟩
    rw [fillPlayersToBG, if_pos rfl, loop_of_le hloop (by omega), Option.map_some]

/-- A group of three and a player alone of the alliance, and a player alone of the horde. -/
def threeJoins : BattlegroundQueue :=
  ((start.addGroup 0 ⟨1, .alliance, some [1, 2, 3], 2, 0, 0, false, false, 0, 0, 0⟩).addGroup 0
    ⟨4, .alliance, none, 2, 0, 0, false, false, 0, 0, 0⟩).addGroup 0
      ⟨5, .horde, none, 2, 0, 0, false, false, 0, 0, 0⟩

/-- Five slots are free on either side. -/
theorem fillPlayersToBG_fills_threeJoins :
    ∃ q', FilledFairly threeJoins (fun _ => 5) true 0 q' ∧
      ∀ turns, 2 * ((threeJoins.queuedGroups 0 (bgQueueNormal .alliance)).length +
          (threeJoins.queuedGroups 0 (bgQueueNormal .horde)).length) < turns →
        threeJoins.fillPlayersToBG turns (fun _ => 5) true 0 = some q' :=
  fillPlayersToBG_fills (fun team => by cases team <;> rfl)
    (fun team => by cases team <;> decide) (fun _ => 5) true

/-- The group of three is given back, since the horde has one player only. -/
example : (threeJoins.fillPlayersToBG 7 (fun _ => 5) true 0).map
    (fun q => (q.selectionPools .alliance, q.selectionPools .horde)) =
      some (⟨[1], 1⟩, ⟨[2], 1⟩) := by
  decide

end BattlegroundQueue

end TeraCore
