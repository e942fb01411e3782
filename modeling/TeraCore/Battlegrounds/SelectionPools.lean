import TeraCore.Battlegrounds.BattlegroundQueue

/-!
# Battlegrounds: what is in a selection pool

A selection pool takes groups of one of the lists, in the order of the list, while there is room
for their players.  Groups that are invited are passed over.  Nothing is put back into the list
that a loop has gone by, so a pool never has a group twice.

## Main results

* `Selected.addGroup`, `Selected.fillPool`, `Selected.fillNormal`: the loops keep that
-/

namespace TeraCore

open Commons

namespace BattlegroundQueue

variable {q : BattlegroundQueue} {seen groups : List ℕ} {limit desiredCount : ℕ}
  {pool : SelectionPool} {group : ℕ}

theorem forall_side {P : Team → Prop} (team : Team) (h : P team) (hother : P team.other) :
    ∀ team, P team := by
  intro team'
  cases team <;> cases team' <;> first | exact h | exact hother

/-- How many players a group has. -/
def groupSize (q : BattlegroundQueue) (group : ℕ) : ℕ := (q.ginfo group).players.size

/-- **A pool that was filled from a part of a list.**  It has some of the groups, none of which is
invited, and it knows how many players they have. -/
structure Selected (q : BattlegroundQueue) (seen : List ℕ) (limit : ℕ) (pool : SelectionPool) :
    Prop where
  playerCount : pool.playerCount = (pool.selectedGroups.map q.groupSize).sum
  le : pool.playerCount ≤ limit
  sublist : pool.selectedGroups.Sublist seen
  uninvited : ∀ group ∈ pool.selectedGroups, q.uninvited group = true

theorem selected_init (q : BattlegroundQueue) (seen : List ℕ) (limit : ℕ) :
    Selected q seen limit .init :=
  ⟨rfl, Nat.zero_le _, List.nil_sublist _, fun _ h => absurd h (by simp [SelectionPool.init])⟩

theorem Selected.mono (h : Selected q seen limit pool) {seen' : List ℕ}
    (hseen : seen.Sublist seen') {limit' : ℕ} (hlimit : limit ≤ limit') :
    Selected q seen' limit' pool :=
  ⟨h.playerCount, h.le.trans hlimit, h.sublist.trans hseen, h.uninvited⟩

theorem Selected.nodup (h : Selected q seen limit pool) (hseen : seen.Nodup) :
    pool.selectedGroups.Nodup := hseen.sublist h.sublist

theorem uninvited_iff (q : BattlegroundQueue) (group : ℕ) :
    q.uninvited group = true ↔ (q.ginfo group).isInvitedToBGInstanceGUID = 0 := by
  rw [BattlegroundQueue.uninvited, beq_iff_eq]

/-- **`AddGroup`** takes the next group, or does not. -/
theorem Selected.addGroup (h : Selected q seen limit pool) (hdesired : desiredCount ≤ limit) :
    Selected q (seen ++ [group]) limit
      (pool.addGroup group (q.ginfo group) desiredCount).2 := by
  rw [SelectionPool.addGroup]
  split_ifs with hroom
  · refine ⟨?_, hroom.2.trans hdesired, h.sublist.append (List.Sublist.refl _), ?_⟩
    · rw [h.playerCount, List.map_append, List.sum_append, List.map_singleton, List.sum_singleton]
      rfl
    · intro other hother
      rcases List.mem_append.mp hother with hold | hnew
      · exact h.uninvited other hold
      · rw [List.mem_singleton.mp hnew, uninvited_iff]
        exact hroom.1
  · exact h.mono (List.sublist_append_left _ _) (le_refl _)

theorem addGroup_playerCount_le (q : BattlegroundQueue) (pool : SelectionPool) (group : ℕ) :
    (pool.addGroup group (q.ginfo group) desiredCount).2.playerCount ≤
      max pool.playerCount desiredCount := by
  rw [SelectionPool.addGroup]
  split_ifs with hroom
  · exact hroom.2.trans (le_max_right _ _)
  · exact le_max_left _ _

theorem le_addGroup_playerCount (q : BattlegroundQueue) (pool : SelectionPool) (group : ℕ) :
    pool.playerCount ≤ (pool.addGroup group (q.ginfo group) desiredCount).2.playerCount := by
  rw [SelectionPool.addGroup]
  split_ifs
  · exact Nat.le_add_right _ _
  · exact le_refl _

theorem Selected.fillPool (hdesired : desiredCount ≤ limit) :
    ∀ (groups seen : List ℕ) (pool : SelectionPool), Selected q seen limit pool →
      Selected q (seen ++ groups) limit (q.fillPool desiredCount groups pool)
  | [], seen, pool, h => by
    rw [BattlegroundQueue.fillPool, List.append_nil]
    exact h
  | group :: rest, seen, pool, h => by
    have hadded : Selected q (seen ++ [group]) limit
        (pool.addGroup group (q.ginfo group) desiredCount).2 := h.addGroup hdesired
    have hskipped : Selected q (seen ++ [group]) limit pool :=
      h.mono (List.sublist_append_left _ _) (le_refl _)
    rw [BattlegroundQueue.fillPool, List.append_cons]
    split_ifs
    · rcases hpool : pool.addGroup group (q.ginfo group) desiredCount with ⟨more, pool'⟩
      rw [hpool] at hadded
      cases more with
      | true => exact Selected.fillPool hdesired rest _ pool' hadded
      | false => exact hadded.mono (List.sublist_append_left _ _) (le_refl _)
    · exact Selected.fillPool hdesired rest _ pool hskipped

/-- **What each addition keeps**, the filling of a pool keeps. -/
theorem fillPool_invariant {P : SelectionPool → Prop} (hadd : ∀ pool group, P pool →
      P (pool.addGroup group (q.ginfo group) desiredCount).2) :
    ∀ (groups : List ℕ) (pool : SelectionPool), P pool → P (q.fillPool desiredCount groups pool)
  | [], pool, h => h
  | group :: rest, pool, h => by
    have hadded := hadd pool group h
    rw [BattlegroundQueue.fillPool]
    split_ifs
    · rcases hpool : pool.addGroup group (q.ginfo group) desiredCount with ⟨more, pool'⟩
      rw [hpool] at hadded
      cases more with
      | true => exact fillPool_invariant hadd rest pool' hadded
      | false => exact hadded
    · exact fillPool_invariant hadd rest pool h

theorem le_fillPool_playerCount (q : BattlegroundQueue) (desiredCount : ℕ) (groups : List ℕ)
    (pool : SelectionPool) :
    pool.playerCount ≤ (q.fillPool desiredCount groups pool).playerCount :=
  fillPool_invariant (P := fun p => pool.playerCount ≤ p.playerCount)
    (fun p group hp => hp.trans (le_addGroup_playerCount q p group)) groups pool le_rfl

/-- The loop that selects the groups of a team until there are enough players.  Behind the place
where its iterator stands is what it has not seen. -/
theorem Selected.fillNormal (minPlayers : ℕ) {maxPlayers : ℕ} :
    ∀ (groups seen : List ℕ) (pool : SelectionPool), Selected q seen maxPlayers pool →
      ∃ scanned, groups = scanned ++ (q.fillNormal minPlayers maxPlayers groups pool).2.tail ∧
        Selected q (seen ++ scanned) maxPlayers (q.fillNormal minPlayers maxPlayers groups pool).1
  | [], seen, pool, h => ⟨[], rfl, by
      rw [List.append_nil]
      exact h⟩
  | group :: rest, seen, pool, h => by
    rw [BattlegroundQueue.fillNormal]
    dsimp only
    split_ifs
    · exact ⟨[group], rfl, h.addGroup (le_refl _)⟩
    · obtain ⟨scanned, hscanned, hselected⟩ := Selected.fillNormal minPlayers rest
        (seen ++ [group]) _ (h.addGroup (le_refl maxPlayers))
      refine ⟨group :: scanned, congrArg _ hscanned, ?_⟩
      rw [List.append_cons]
      exact hselected
    · obtain ⟨scanned, hscanned, hselected⟩ := Selected.fillNormal minPlayers rest
        (seen ++ [group]) pool (h.mono (List.sublist_append_left _ _) (le_refl _))
      refine ⟨group :: scanned, congrArg _ hscanned, ?_⟩
      rw [List.append_cons]
      exact hselected

end BattlegroundQueue

end TeraCore
