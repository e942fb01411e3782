import TeraCore.Battlegrounds.QueueStructure
import TeraCore.Battlegrounds.SelectionPools

/-!
# Battlegrounds: when a normal match starts

A normal match takes groups of both teams until either side has enough players.  For a skirmish in
an arena there may be enough players of one team only.  Then that team plays against itself: the
groups behind the last one that was selected are selected for the other side, and they change their
team and their list.

An arena needs exactly as many players as it has places.  The skirmish relies on that: it knows the
side that is complete by the number of its players.  With more places than are needed, the side with
too few players may be taken for the complete one.

## Main results

* `checkNormalMatch_ready`: a normal match starts with good pools
* `checkSkirmish_ready`: and so does a skirmish of one team
* `match_ready`: both of them
* `not_ready_morePlaces`: a skirmish with more places than it needs players
-/

namespace TeraCore

open Commons

namespace BattlegroundQueue

variable {q : BattlegroundQueue} {bracketId minPlayers maxPlayers : ℕ} {team : Team}

/-- **The normal lists of a bracket**: no group is in a list twice, and a list has groups of its
team. -/
structure TeamLists (q : BattlegroundQueue) (bracketId : ℕ) : Prop where
  nodup : ∀ team, (q.queuedGroups bracketId (bgQueueNormal team)).Nodup
  team : ∀ team, ∀ group ∈ q.queuedGroups bracketId (bgQueueNormal team),
    (q.ginfo group).team = team

theorem TeamLists.disjoint (h : q.TeamLists bracketId) {group : ℕ}
    (hgroup : group ∈ q.queuedGroups bracketId (bgQueueNormal team)) :
    group ∉ q.queuedGroups bracketId (bgQueueNormal team.other) := by
  intro hother
  have heq := (h.team _ group hgroup).symm.trans (h.team _ group hother)
  cases team <;> cases heq

/-- **The pools are good for a match.** -/
structure Ready (q : BattlegroundQueue) (minPlayers maxPlayers : ℕ) (balanced : Bool) : Prop where
  playerCount : ∀ team, (q.selectionPools team).playerCount =
    ((q.selectionPools team).selectedGroups.map fun group => (q.ginfo group).players.size).sum
  atLeast : ∀ team, minPlayers ≤ (q.selectionPools team).playerCount
  atMost : ∀ team, (q.selectionPools team).playerCount ≤ maxPlayers
  distinct : ((q.selectionPools .alliance).selectedGroups ++
    (q.selectionPools .horde).selectedGroups).Nodup
  uninvited : ∀ team, ∀ group ∈ (q.selectionPools team).selectedGroups,
    (q.ginfo group).isInvitedToBGInstanceGUID = 0
  balance : balanced = true → (((q.selectionPools .alliance).playerCount : ℤ) -
    (q.selectionPools .horde).playerCount).natAbs ≤ 2

/-- **Every selected group is in the list of its side**, once, and of its team. -/
def Seated (q : BattlegroundQueue) (bracketId : ℕ) : Prop :=
  ∀ team, ∀ group ∈ (q.selectionPools team).selectedGroups,
    (q.queuedGroups bracketId (bgQueueNormal team)).count group = 1 ∧ (q.ginfo group).team = team

/-! ## The normal match -/

theorem Selected.congr {q' : BattlegroundQueue} {seen : List ℕ} {limit : ℕ} {pool : SelectionPool}
    (h : Selected q seen limit pool) (hginfo : ∀ group, (q'.ginfo group).players.size =
      (q.ginfo group).players.size ∧ (q'.ginfo group).isInvitedToBGInstanceGUID =
        (q.ginfo group).isInvitedToBGInstanceGUID) :
    Selected q' seen limit pool := by
  refine ⟨?_, h.le, h.sublist, fun group hgroup => ?_⟩
  · rw [h.playerCount]
    exact congrArg List.sum (List.map_congr_left fun group _ => (hginfo group).1.symm)
  · rw [uninvited_iff, (hginfo group).2, ← uninvited_iff]
    exact h.uninvited group hgroup

/-- What the first loop of a normal match selects for a team, and where it stops. -/
def firstFill (q : BattlegroundQueue) (bracketId minPlayers maxPlayers : ℕ) (team : Team) :
    SelectionPool × List ℕ :=
  q.fillNormal minPlayers maxPlayers (q.queuedGroups bracketId (bgQueueNormal team))
    (q.selectionPools team)

/-- The team with fewer players after that, which gets more groups. -/
def smallerTeam (q : BattlegroundQueue) (bracketId minPlayers maxPlayers : ℕ) : Team :=
  if (q.firstFill bracketId minPlayers maxPlayers .horde).1.playerCount <
      (q.firstFill bracketId minPlayers maxPlayers .alliance).1.playerCount then .horde
  else .alliance

/-- What the second loop selects for a team, to the number of players of the other. -/
def secondFill (q : BattlegroundQueue) (bracketId minPlayers maxPlayers : ℕ) (team : Team) :
    SelectionPool :=
  q.fillPool (q.firstFill bracketId minPlayers maxPlayers team.other).1.playerCount
    (q.firstFill bracketId minPlayers maxPlayers team).2.tail
    (q.firstFill bracketId minPlayers maxPlayers team).1

/-- The pools after the first loops. -/
def firstPools (q : BattlegroundQueue) (bracketId minPlayers maxPlayers : ℕ) : BattlegroundQueue :=
  (q.setPool .alliance (q.firstFill bracketId minPlayers maxPlayers .alliance).1).setPool .horde
    (q.firstFill bracketId minPlayers maxPlayers .horde).1

theorem firstPools_selectionPools (q : BattlegroundQueue) (bracketId minPlayers maxPlayers : ℕ)
    (team : Team) : (q.firstPools bracketId minPlayers maxPlayers).selectionPools team =
      (q.firstFill bracketId minPlayers maxPlayers team).1 := by
  cases team <;> rfl

theorem checkNormalMatch_balanced (q : BattlegroundQueue) {env : SelectionEnv}
    (hbalanced : env.balanced = true) (henough : ∀ team, minPlayers ≤
      (q.firstFill bracketId minPlayers maxPlayers team).1.playerCount) {team : Team}
    (hteam : q.smallerTeam bracketId minPlayers maxPlayers = team) :
    q.checkNormalMatch env bracketId minPlayers maxPlayers =
      (decide ((((q.secondFill bracketId minPlayers maxPlayers team).playerCount : ℤ) -
          (q.firstFill bracketId minPlayers maxPlayers team.other).1.playerCount).natAbs ≤ 2),
        (q.firstPools bracketId minPlayers maxPlayers).setPool team
          (q.secondFill bracketId minPlayers maxPlayers team)) := by
  have hboth : (env.balanced && (decide (minPlayers ≤
      (q.firstFill bracketId minPlayers maxPlayers .alliance).1.playerCount) && decide (minPlayers ≤
        (q.firstFill bracketId minPlayers maxPlayers .horde).1.playerCount))) = true := by
    rw [hbalanced, decide_eq_true (henough _), decide_eq_true (henough _)]
    rfl
  refine (if_pos hboth).trans ?_
  change (if 2 < (((q.secondFill bracketId minPlayers maxPlayers
      (q.smallerTeam bracketId minPlayers maxPlayers)).playerCount : ℤ) -
        (q.firstFill bracketId minPlayers maxPlayers
          (q.smallerTeam bracketId minPlayers maxPlayers).other).1.playerCount).natAbs then
      (false, (q.firstPools bracketId minPlayers maxPlayers).setPool
        (q.smallerTeam bracketId minPlayers maxPlayers)
          (q.secondFill bracketId minPlayers maxPlayers
          (q.smallerTeam bracketId minPlayers maxPlayers)))
    else (true, (q.firstPools bracketId minPlayers maxPlayers).setPool
        (q.smallerTeam bracketId minPlayers maxPlayers)
          (q.secondFill bracketId minPlayers maxPlayers
          (q.smallerTeam bracketId minPlayers maxPlayers)))) = _
  rw [hteam]
  split_ifs with hdiff
  · rw [decide_eq_false (not_le.mpr hdiff)]
  · rw [decide_eq_true (not_lt.mp hdiff)]

theorem checkNormalMatch_unbalanced (q : BattlegroundQueue) {env : SelectionEnv}
    (hnot : ¬(env.balanced = true ∧ ∀ team, minPlayers ≤
      (q.firstFill bracketId minPlayers maxPlayers team).1.playerCount)) :
    (q.checkNormalMatch env bracketId minPlayers maxPlayers).2 =
        q.firstPools bracketId minPlayers maxPlayers ∧
      ((q.checkNormalMatch env bracketId minPlayers maxPlayers).1 = true → env.isTesting = false →
        env.balanced = false ∧ ∀ team, minPlayers ≤
          (q.firstFill bracketId minPlayers maxPlayers team).1.playerCount) := by
  have hall : (decide (minPlayers ≤
      (q.firstFill bracketId minPlayers maxPlayers .alliance).1.playerCount) && decide (minPlayers ≤
        (q.firstFill bracketId minPlayers maxPlayers .horde).1.playerCount)) = true ↔
      ∀ team, minPlayers ≤ (q.firstFill bracketId minPlayers maxPlayers team).1.playerCount := by
    rw [Bool.and_eq_true, decide_eq_true_iff, decide_eq_true_iff]
    refine ⟨fun h team => ?_, fun h => ⟨h _, h _⟩⟩
    cases team
    · exact h.1
    · exact h.2
  have hfalse : ¬(env.balanced && (decide (minPlayers ≤
      (q.firstFill bracketId minPlayers maxPlayers .alliance).1.playerCount) && decide (minPlayers ≤
        (q.firstFill bracketId minPlayers maxPlayers .horde).1.playerCount))) = true := by
    rw [Bool.and_eq_true, hall]
    exact hnot
  have heq : q.checkNormalMatch env bracketId minPlayers maxPlayers =
      (env.isTesting && env.isBattleground &&
        (decide ((q.firstFill bracketId minPlayers maxPlayers .alliance).1.playerCount ≠ 0) ||
          decide ((q.firstFill bracketId minPlayers maxPlayers .horde).1.playerCount ≠ 0)) ||
        (decide (minPlayers ≤
          (q.firstFill bracketId minPlayers maxPlayers .alliance).1.playerCount) && decide
            (minPlayers ≤ (q.firstFill bracketId minPlayers maxPlayers .horde).1.playerCount)),
        q.firstPools bracketId minPlayers maxPlayers) := if_neg hfalse
  rw [heq]
  refine ⟨rfl, fun hstarts htesting => ?_⟩
  rw [htesting, Bool.false_and, Bool.false_and, Bool.false_or, hall] at hstarts
  refine ⟨?_, hstarts⟩
  by_contra hbalanced
  exact hnot ⟨eq_true_of_ne_false hbalanced, hstarts⟩

/-- **What a normal match has selected**, from the lists as they are. -/
structure Matched (q : BattlegroundQueue) (env : SelectionEnv) (bracketId minPlayers maxPlayers : ℕ)
    (r : Bool × BattlegroundQueue) : Prop where
  selected : ∀ team, Selected q (q.queuedGroups bracketId (bgQueueNormal team)) maxPlayers
    (r.2.selectionPools team)
  queuedGroups : r.2.queuedGroups = q.queuedGroups
  groups : r.2.groups = q.groups
  atLeast : r.1 = true → env.isTesting = false →
    ∀ team, minPlayers ≤ (r.2.selectionPools team).playerCount
  balance : r.1 = true → env.isTesting = false → env.balanced = true →
    (((r.2.selectionPools .alliance).playerCount : ℤ) -
      (r.2.selectionPools .horde).playerCount).natAbs ≤ 2

/-- The first loop has gone by a part of the list, and the second one goes on behind it. -/
theorem firstFill_selected (hpools : ∀ team, q.selectionPools team = .init)
    (bracketId minPlayers maxPlayers : ℕ) (team : Team) :
    ∃ scanned, q.queuedGroups bracketId (bgQueueNormal team) =
        scanned ++ (q.firstFill bracketId minPlayers maxPlayers team).2.tail ∧
      Selected q scanned maxPlayers (q.firstFill bracketId minPlayers maxPlayers team).1 := by
  rw [firstFill, hpools]
  exact Selected.fillNormal minPlayers (q.queuedGroups bracketId (bgQueueNormal team)) [] .init
    (selected_init q [] maxPlayers)

theorem matched_checkNormalMatch (hpools : ∀ team, q.selectionPools team = .init)
    (env : SelectionEnv) (bracketId minPlayers maxPlayers : ℕ) :
    Matched q env bracketId minPlayers maxPlayers
      (q.checkNormalMatch env bracketId minPlayers maxPlayers) := by
  have hfirst : ∀ team, Selected q (q.queuedGroups bracketId (bgQueueNormal team)) maxPlayers
      (q.firstFill bracketId minPlayers maxPlayers team).1 := by
    intro team
    obtain ⟨scanned, hscanned, hselected⟩ :=
      firstFill_selected hpools bracketId minPlayers maxPlayers team
    rw [hscanned]
    exact hselected.mono (List.sublist_append_left _ _) (le_refl _)
  by_cases hbalanced : env.balanced = true ∧ ∀ team, minPlayers ≤
      (q.firstFill bracketId minPlayers maxPlayers team).1.playerCount
  · obtain ⟨hbalanced, henough⟩ := hbalanced
    generalize hteam : q.smallerTeam bracketId minPlayers maxPlayers = team
    rw [checkNormalMatch_balanced q hbalanced henough hteam]
    have hsecond : Selected q (q.queuedGroups bracketId (bgQueueNormal team)) maxPlayers
        (q.secondFill bracketId minPlayers maxPlayers team) := by
      obtain ⟨scanned, hscanned, hselected⟩ :=
        firstFill_selected hpools bracketId minPlayers maxPlayers team
      rw [hscanned]
      exact Selected.fillPool (hfirst team.other).le _ scanned _ hselected
    have hgrown := le_fillPool_playerCount q
      (q.firstFill bracketId minPlayers maxPlayers team.other).1.playerCount
      (q.firstFill bracketId minPlayers maxPlayers team).2.tail
      (q.firstFill bracketId minPlayers maxPlayers team).1
    have hpoolsAfter : ∀ team', ((q.firstPools bracketId minPlayers maxPlayers).setPool team
        (q.secondFill bracketId minPlayers maxPlayers team)).selectionPools team' =
          if team' = team then q.secondFill bracketId minPlayers maxPlayers team
          else (q.firstFill bracketId minPlayers maxPlayers team').1 := by
      intro team'
      rw [← firstPools_selectionPools]
      rfl
    refine ⟨fun team' => ?_, rfl, rfl, fun _ _ team' => ?_, fun hstarts _ _ => ?_⟩
    · rw [hpoolsAfter]
      split_ifs with heq
      · exact heq ▸ hsecond
      · exact hfirst team'
    · rw [hpoolsAfter]
      split_ifs
      · exact (henough team).trans hgrown
      · exact henough team'
    · have hdiff := of_decide_eq_true hstarts
      rw [hpoolsAfter, hpoolsAfter]
      cases team <;> simp only [Team.other, reduceCtorEq, if_true, if_false] at hdiff ⊢ <;> omega
  · obtain ⟨hpoolsAfter, hstarts⟩ := checkNormalMatch_unbalanced q hbalanced
    refine ⟨fun team => ?_, ?_, ?_, fun h htesting team => ?_, fun h htesting hb => ?_⟩
    · rw [hpoolsAfter, firstPools_selectionPools]
      exact hfirst team
    · rw [hpoolsAfter]
      rfl
    · rw [hpoolsAfter]
      rfl
    · rw [hpoolsAfter, firstPools_selectionPools]
      exact (hstarts h htesting).2 team
    · exact absurd (hb.symm.trans (hstarts h htesting).1) (by decide)

/-! ## The skirmish of one team -/

/-- A group that changes its team goes to the front of the list of the other team.  What is taken
off the own list is nobody else. -/
theorem moveToOther_lists (q : BattlegroundQueue) (bracketId : ℕ) (team : Team)
    (anchor group : ℕ) :
    (∀ other, (q.moveToOther bracketId team anchor group).ginfo other =
      if other = group then { q.ginfo other with team := team.other } else q.ginfo other) ∧
    (q.moveToOther bracketId team anchor group).queuedGroups bracketId
        (bgQueueNormal team.other) =
      group :: q.queuedGroups bracketId (bgQueueNormal team.other) ∧
    ∀ other, other ≠ group →
      ((q.moveToOther bracketId team anchor group).queuedGroups bracketId
          (bgQueueNormal team)).count other =
        (q.queuedGroups bracketId (bgQueueNormal team)).count other := by
  refine ⟨fun other => ?_, ?_, fun other hne => ?_⟩
  · change (q.groups.set group _).get other = _
    split_ifs with heq
    · rw [heq, OrderedMap.get_set_self]
    · exact OrderedMap.get_set_of_ne _ _ heq
  · simp only [moveToOther, modifyList, BattlegroundQueue.setGroup]
    rw [if_neg fun hboth => bgQueueNormal_other team hboth.2, if_pos ⟨trivial, trivial⟩]
  · simp only [moveToOther, modifyList, BattlegroundQueue.setGroup]
    rw [if_pos ⟨trivial, trivial⟩, if_neg fun hboth => bgQueueNormal_other team hboth.2.symm,
      List.count_append, List.count_erase_of_ne hne, ← List.count_append, List.take_append_drop]

/-- **All selected groups change sides**, wherever the iterator stands. -/
theorem moveSelected_lists (bracketId : ℕ) (team : Team) :
    ∀ (selected : List ℕ) (anchor : ℕ) (stale : ℕ → ℕ) (q : BattlegroundQueue),
      (∀ other, (moveSelected bracketId team selected anchor stale q).ginfo other =
        if other ∈ selected then { q.ginfo other with team := team.other } else q.ginfo other) ∧
      (moveSelected bracketId team selected anchor stale q).selectionPools = q.selectionPools ∧
      (moveSelected bracketId team selected anchor stale q).queuedGroups bracketId
          (bgQueueNormal team.other) =
        selected.reverse ++ q.queuedGroups bracketId (bgQueueNormal team.other) ∧
      ∀ other, other ∉ selected →
        ((moveSelected bracketId team selected anchor stale q).queuedGroups bracketId
            (bgQueueNormal team)).count other =
          (q.queuedGroups bracketId (bgQueueNormal team)).count other
  | [], _, _, _ => ⟨fun _ => (if_neg List.not_mem_nil).symm, rfl, rfl, fun _ _ => rfl⟩
  | group :: rest, anchor, stale, q => by
    obtain ⟨hginfo, hlist, hcount⟩ := moveToOther_lists q bracketId team anchor group
    obtain ⟨hginfo', hpools', hlist', hcount'⟩ := moveSelected_lists bracketId team rest (stale 0)
      (fun n => stale (n + 1)) (q.moveToOther bracketId team anchor group)
    rw [moveSelected]
    refine ⟨fun other => ?_, hpools', ?_, fun other hother => ?_⟩
    · rw [hginfo', hginfo]
      by_cases hrest : other ∈ rest
      · rw [if_pos hrest, if_pos (List.mem_cons_of_mem _ hrest)]
        split_ifs <;> rfl
      · rw [if_neg hrest]
        by_cases heq : other = group
        · rw [if_pos heq, if_pos (heq ▸ List.mem_cons_self)]
        · rw [if_neg heq, if_neg fun h => (List.mem_cons.mp h).elim heq hrest]
    · rw [hlist', hlist, List.reverse_cons, List.append_assoc, List.singleton_append]
    · rw [List.mem_cons, not_or] at hother
      rw [hcount' other hother.2, hcount other hother.1]

theorem selected_before {selected groups : List ℕ} (hsub : selected.Sublist groups)
    (hnodup : groups.Nodup) {last : ℕ} (hlast : selected.getLast? = some last) :
    ∀ group ∈ selected, group ∉ groups.drop (groups.idxOf last + 1) := by
  have hmem : last ∈ groups := hsub.subset (List.mem_of_getLast? hlast)
  have hat : last ∈ groups.take (groups.idxOf last + 1) := by
    rw [List.mem_take_iff_getElem]
    have hlt := List.idxOf_lt_length_of_mem hmem
    exact ⟨groups.idxOf last, by omega, List.getElem_idxOf hlt⟩
  rw [← List.take_append_drop (groups.idxOf last + 1) groups] at hnodup hsub
  have hapart := (List.nodup_append.mp hnodup).2.2
  obtain ⟨before, behind, hparts, hbefore, hbehind⟩ := List.sublist_append_iff.mp hsub
  have hnone : behind = [] := by
    by_contra hsome
    rw [hparts, List.getLast?_append, List.getLast?_eq_some_getLast hsome, Option.some_or] at hlast
    have hin : last ∈ behind := Option.some.inj hlast ▸ List.getLast_mem hsome
    exact hapart last hat last (hbehind.subset hin) rfl
  intro group hgroup hdrop
  rw [hparts, hnone, List.append_nil] at hgroup
  exact hapart group (hbefore.subset hgroup) group hdrop rfl

theorem checkSkirmish_spec {stale : ℕ → ℕ}
    (hstarts : (q.checkSkirmishForSameFaction bracketId minPlayers stale).1 = true)
    (hteam : q.skirmishTeam minPlayers = team) :
    ∃ last pool anchor,
      (minPlayers ≤ (q.selectionPools .alliance).playerCount ∨
        minPlayers ≤ (q.selectionPools .horde).playerCount) ∧
      (q.selectionPools team).selectedGroups.getLast? = some last ∧
      anchor = (q.queuedGroups bracketId (bgQueueNormal team)).idxOf last ∧
      Selected q ((q.queuedGroups bracketId (bgQueueNormal team)).drop (anchor + 1)) minPlayers
        pool ∧
      pool.playerCount = minPlayers ∧
      (q.checkSkirmishForSameFaction bracketId minPlayers stale).2 =
        moveSelected bracketId team pool.selectedGroups anchor stale
          (q.setPool team.other pool) := by
  rw [checkSkirmishForSameFaction, hteam] at hstarts ⊢
  dsimp only at hstarts ⊢
  rw [selectionPools_other] at hstarts ⊢
  split_ifs at hstarts ⊢ with hfew
  cases hlast : (q.selectionPools team).selectedGroups.getLast? with
  | none =>
    rw [hlast] at hstarts
    cases hstarts
  | some last =>
    rw [hlast] at hstarts
    dsimp only at hstarts ⊢
    rw [fillPool_setPool, setPool_setPool] at hstarts ⊢
    change ((if _ then _ else if _ then _ else _ : Bool × BattlegroundQueue)).1 = true at hstarts
    split_ifs at hstarts ⊢ with hgone hpool
    refine ⟨last, _, _, ?_, rfl, rfl, ?_, not_not.mp hpool, rfl⟩
    · omega
    · have hselected := Selected.fillPool (le_refl minPlayers)
        ((q.queuedGroups bracketId (bgQueueNormal team)).drop
          ((q.queuedGroups bracketId (bgQueueNormal team)).idxOf last + 1)) [] .init
            (selected_init q [] minPlayers)
      exact hselected

theorem skirmishTeam_playerCount (hmost : ∀ team, (q.selectionPools team).playerCount ≤ minPlayers)
    (hsome : minPlayers ≤ (q.selectionPools .alliance).playerCount ∨
      minPlayers ≤ (q.selectionPools .horde).playerCount) :
    (q.selectionPools (q.skirmishTeam minPlayers)).playerCount = minPlayers := by
  have halliance := hmost .alliance
  have hhorde := hmost .horde
  rw [skirmishTeam]
  split_ifs with hfull
  · exact hfull
  · omega

/-- **A skirmish starts with good pools**, and everyone is where he plays. -/
theorem checkSkirmish_ready (hlists : q.TeamLists bracketId)
    (hselected : ∀ team, Selected q (q.queuedGroups bracketId (bgQueueNormal team)) minPlayers
      (q.selectionPools team)) {stale : ℕ → ℕ} (balanced : Bool)
    (hstarts : (q.checkSkirmishForSameFaction bracketId minPlayers stale).1 = true) :
    Ready (q.checkSkirmishForSameFaction bracketId minPlayers stale).2 minPlayers minPlayers
        balanced ∧
      Seated (q.checkSkirmishForSameFaction bracketId minPlayers stale).2 bracketId := by
  generalize hteam : q.skirmishTeam minPlayers = team
  obtain ⟨last, pool, anchor, hsome, hlast, rfl, hpool, hcount, hafter⟩ :=
    checkSkirmish_spec hstarts hteam
  have hown : (q.selectionPools team).playerCount = minPlayers :=
    hteam ▸ skirmishTeam_playerCount (fun team => (hselected team).le) hsome
  have hbehind : pool.selectedGroups.Sublist (q.queuedGroups bracketId (bgQueueNormal team)) :=
    hpool.sublist.trans (List.drop_sublist _ _)
  have hapart : ∀ group ∈ (q.selectionPools team).selectedGroups,
      group ∉ pool.selectedGroups := fun group hgroup hin =>
    selected_before (hselected team).sublist (hlists.nodup team) hlast group hgroup
      (hpool.sublist.subset hin)
  obtain ⟨hginfo, hpools, hlist, hstay⟩ := moveSelected_lists bracketId team pool.selectedGroups
    ((q.queuedGroups bracketId (bgQueueNormal team)).idxOf last) stale (q.setPool team.other pool)
  rw [← hafter] at hginfo hpools hlist hstay
  generalize (q.checkSkirmishForSameFaction bracketId minPlayers stale).2 = q'
    at hginfo hpools hlist hstay ⊢
  have hpoolOwn : q'.selectionPools team = q.selectionPools team := by
    rw [hpools, selectionPools_other]
  have hpoolOther : q'.selectionPools team.other = pool := by
    rw [hpools]
    exact if_pos rfl
  have hsame : ∀ group, (q'.ginfo group).players.size = (q.ginfo group).players.size ∧
      (q'.ginfo group).isInvitedToBGInstanceGUID =
        (q.ginfo group).isInvitedToBGInstanceGUID := by
    intro group
    rw [hginfo]
    split_ifs <;> exact ⟨rfl, rfl⟩
  have hselected' : ∀ team', Selected q' (q.queuedGroups bracketId (bgQueueNormal team))
      minPlayers (q'.selectionPools team') := by
    refine forall_side team ?_ ?_
    · rw [hpoolOwn]
      exact (hselected team).congr hsame
    · rw [hpoolOther]
      exact (hpool.congr hsame).mono (List.drop_sublist _ _) (le_refl _)
  have hexactly : ∀ team', (q'.selectionPools team').playerCount = minPlayers := by
    refine forall_side team ?_ ?_
    · rw [hpoolOwn, hown]
    · rw [hpoolOther, hcount]
  have hdistinct : ((q'.selectionPools team).selectedGroups ++
      (q'.selectionPools team.other).selectedGroups).Nodup := by
    rw [hpoolOwn, hpoolOther]
    refine List.nodup_append.mpr ⟨(hselected team).nodup (hlists.nodup team),
      (hlists.nodup team).sublist hbehind, fun group hgroup other hother heq => ?_⟩
    exact hapart group hgroup (heq ▸ hother)
  refine ⟨⟨fun team' => (hselected' team').playerCount, fun team' => (hexactly team').ge,
    fun team' => (hexactly team').le, ?_, fun team' group hgroup =>
      (uninvited_iff q' group).mp ((hselected' team').uninvited group hgroup), fun _ => ?_⟩, ?_⟩
  · cases team
    · exact hdistinct
    · exact List.nodup_append_comm.mp hdistinct
  · rw [hexactly, hexactly]
    omega
  · refine forall_side team (fun group hgroup => ?_) fun group hgroup => ?_
    · rw [hpoolOwn] at hgroup
      have hin := (hselected team).sublist.subset hgroup
      have hout := hapart group hgroup
      refine ⟨?_, ?_⟩
      · rw [hstay group hout]
        exact List.count_eq_one_of_mem (hlists.nodup team) hin
      · rw [hginfo, if_neg hout]
        exact hlists.team team group hin
    · rw [hpoolOther] at hgroup
      have hin := hbehind.subset hgroup
      refine ⟨?_, ?_⟩
      · rw [hlist, List.count_append, List.count_reverse,
          List.count_eq_one_of_mem ((hlists.nodup team).sublist hbehind) hgroup]
        exact congrArg (1 + ·) (List.count_eq_zero.mpr (hlists.disjoint hin))
      · rw [hginfo, if_pos hgroup]

/-! ## Starting a match -/

theorem Matched.teamLists {env : SelectionEnv} {r : Bool × BattlegroundQueue}
    (h : Matched q env bracketId minPlayers maxPlayers r) (hlists : q.TeamLists bracketId) :
    r.2.TeamLists bracketId := by
  have hginfo : r.2.ginfo = q.ginfo := by
    funext group
    rw [ginfo, ginfo, h.groups]
  refine ⟨fun team => ?_, fun team group hgroup => ?_⟩
  · rw [h.queuedGroups]
    exact hlists.nodup team
  · rw [hginfo]
    rw [h.queuedGroups] at hgroup
    exact hlists.team team group hgroup

section

variable (hpools : ∀ team, q.selectionPools team = .init) (hlists : q.TeamLists bracketId)
  {env : SelectionEnv} (htesting : env.isTesting = false)
include hpools hlists htesting

theorem checkNormalMatch_ready
    (hstarts : (q.checkNormalMatch env bracketId minPlayers maxPlayers).1 = true) :
    Ready (q.checkNormalMatch env bracketId minPlayers maxPlayers).2 minPlayers maxPlayers
      env.balanced := by
  have hmatched := matched_checkNormalMatch hpools env bracketId minPlayers maxPlayers
  generalize q.checkNormalMatch env bracketId minPlayers maxPlayers = r at hmatched hstarts
  have hginfo : r.2.ginfo = q.ginfo := by
    funext group
    rw [ginfo, ginfo, hmatched.groups]
  have hselected : ∀ team, Selected r.2 (q.queuedGroups bracketId (bgQueueNormal team)) maxPlayers
      (r.2.selectionPools team) :=
    fun team => (hmatched.selected team).congr fun group => by
      rw [hginfo]
      exact ⟨rfl, rfl⟩
  refine ⟨fun team => (hselected team).playerCount, hmatched.atLeast hstarts htesting,
    fun team => (hselected team).le, ?_, fun team group hgroup =>
      (uninvited_iff r.2 group).mp ((hselected team).uninvited group hgroup),
    hmatched.balance hstarts htesting⟩
  refine List.nodup_append.mpr ⟨(hselected .alliance).nodup (hlists.nodup .alliance),
    (hselected .horde).nodup (hlists.nodup .horde), fun group hgroup other hother heq => ?_⟩
  exact hlists.disjoint ((hselected .alliance).sublist.subset hgroup)
    ((hselected .horde).sublist.subset (heq ▸ hother))

/-- **A match starts with good pools**: a normal match, and a skirmish with as many places as it
needs players, which is looked for after a normal match. -/
theorem match_ready (minPlayers maxPlayers : ℕ) (stale : ℕ → ℕ) :
    ((q.checkNormalMatch env bracketId minPlayers maxPlayers).1 = true →
      Ready (q.checkNormalMatch env bracketId minPlayers maxPlayers).2 minPlayers maxPlayers
        env.balanced) ∧
    (minPlayers = maxPlayers →
      ((q.checkNormalMatch env bracketId minPlayers maxPlayers).2.checkSkirmishForSameFaction
        bracketId minPlayers stale).1 = true →
      Ready ((q.checkNormalMatch env bracketId minPlayers
          maxPlayers).2.checkSkirmishForSameFaction bracketId minPlayers stale).2 minPlayers
            maxPlayers env.balanced ∧
        Seated ((q.checkNormalMatch env bracketId minPlayers
          maxPlayers).2.checkSkirmishForSameFaction bracketId minPlayers stale).2 bracketId) := by
  refine ⟨checkNormalMatch_ready hpools hlists htesting, ?_⟩
  rintro rfl hstarts
  have hmatched := matched_checkNormalMatch hpools env bracketId minPlayers minPlayers
  refine checkSkirmish_ready (hmatched.teamLists hlists) (fun team => ?_) env.balanced hstarts
  rw [hmatched.queuedGroups]
  refine (hmatched.selected team).congr fun group => ?_
  rw [ginfo, ginfo, hmatched.groups]
  exact ⟨rfl, rfl⟩

end

/-- A group of the given players, who queue for a skirmish. -/
def groupJoin (team : Team) (guids : List Guid) : QueueJoin :=
  ⟨guids.headD 0, team, some guids, 6, 0, 2, false, false, 0, 0, 0⟩

/-- Two pairs of the alliance, and nobody of the horde. -/
def twoPairs : BattlegroundQueue :=
  (start.addGroup 0 (groupJoin .alliance [1, 2])).addGroup 0 (groupJoin .alliance [3, 4])

theorem teamLists_twoPairs : twoPairs.TeamLists 0 :=
  ⟨fun team => by cases team <;> decide, fun team => by cases team <;> decide⟩

/-- The pairs play against each other. -/
theorem match_ready_twoPairs :
    ((twoPairs.checkNormalMatch ⟨true, false, false⟩ 0 2 2).1 = true →
      Ready (twoPairs.checkNormalMatch ⟨true, false, false⟩ 0 2 2).2 2 2 true) ∧
    (2 = 2 →
      ((twoPairs.checkNormalMatch ⟨true, false, false⟩ 0 2 2).2.checkSkirmishForSameFaction
        0 2 fun _ => 0).1 = true →
      Ready ((twoPairs.checkNormalMatch ⟨true, false, false⟩ 0 2 2).2.checkSkirmishForSameFaction
          0 2 fun _ => 0).2 2 2 true ∧
        Seated ((twoPairs.checkNormalMatch ⟨true, false, false⟩ 0 2
          2).2.checkSkirmishForSameFaction 0 2 fun _ => 0).2 0) :=
  match_ready (fun team => by cases team <;> rfl) teamLists_twoPairs rfl 2 2 fun _ => 0

/-- A pair and four players of the alliance, and five of the horde. -/
def twoFourFive : BattlegroundQueue :=
  ((start.addGroup 0 (groupJoin .alliance [1, 2])).addGroup 0
    (groupJoin .alliance [3, 4, 5, 6])).addGroup 0 (groupJoin .horde [7, 8, 9, 10, 11])

/-- **With more places than it needs players a skirmish starts with too few.**  Four players are
needed and there are five places.  The five of the horde are not exactly four, so the pair of the
alliance is taken for the side that is complete, and the four play against it. -/
theorem not_ready_morePlaces :
    (∀ team, twoFourFive.selectionPools team = .init) ∧ twoFourFive.TeamLists 0 ∧
      (twoFourFive.checkNormalMatch ⟨true, false, false⟩ 0 4 5).1 = false ∧
      ((twoFourFive.checkNormalMatch ⟨true, false, false⟩ 0 4 5).2.checkSkirmishForSameFaction
        0 4 fun _ => 0).1 = true ∧
      (((twoFourFive.checkNormalMatch ⟨true, false, false⟩ 0 4 5).2.checkSkirmishForSameFaction
        0 4 fun _ => 0).2.selectionPools .alliance).playerCount = 2 ∧
      ¬Ready ((twoFourFive.checkNormalMatch ⟨true, false, false⟩ 0 4
        5).2.checkSkirmishForSameFaction 0 4 fun _ => 0).2 4 5 true := by
  have hcount : (((twoFourFive.checkNormalMatch ⟨true, false, false⟩ 0 4
      5).2.checkSkirmishForSameFaction 0 4 fun _ => 0).2.selectionPools .alliance).playerCount =
        2 := by
    decide +kernel
  refine ⟨fun team => by cases team <;> rfl, ⟨fun team => by cases team <;> decide,
    fun team => by cases team <;> decide⟩, by decide +kernel, by decide +kernel, hcount,
    fun hready => ?_⟩
  exact absurd (hcount ▸ hready.atLeast .alliance) (by decide)

end BattlegroundQueue

end TeraCore
