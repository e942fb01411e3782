import TeraCore.Groups.RollTally

/-!
# The rolls a leaver takes part in

A player who leaves the group is taken out of its rolls one by one: their vote leaves its
counter, they leave the number of players who roll, their entry goes, and then their vote is
counted with a roll type that asks for none, so that a roll they were the last to hold up ends.

The vote is counted through `Group::CountRollVote`, which looks the leaver up first, and they are
no longer there.  So nothing is resolved, and a roll that waited for the leaver alone stays in the
group with every vote given.

## Main results

* `Group.leaveRolls_eq_map`: the call changes nothing, and the loop is `Roll.removeVoter`
* `GroupState.rollsCounted_after`: the rolls of every run are counted
* `Group.removeMember_strandsNoRoll_iff`: when no complete roll is left behind
* `Group.detachMember_after`: the loop is what the model does, in every run
-/

namespace TeraCore

open Commons OrderedMap

/-- `MAX_ROLL_TYPE`: the first of the roll types that ask for no vote. -/
def maxRollType : BitVec 8 := 4

/-! ## The loop -/

@[simp] theorem Roll.removeVoter_itemGUID (r : Roll) (guid : Guid) :
    (r.removeVoter guid).itemGUID = r.itemGUID := by
  unfold Roll.removeVoter
  split <;> rfl

namespace Group

/-- One pass of the loop over the rolls in `Group::RemoveMember`. -/
def leaveRoll (guid : Guid) (g : Group) (i : ℕ) : Group :=
  match g.rolls[i]? with
  | none => g
  | some roll =>
    if (roll.playerVote.find? guid).isSome then
      let g : Group := { g with rolls := g.rolls.set i (roll.removeVoter guid) }
      (g.countRollVote guid roll.itemGUID maxRollType).1
    else g

/-- **The loop over the rolls in `Group::RemoveMember`.** -/
def leaveRolls (g : Group) (guid : Guid) : Group :=
  (List.range g.rolls.length).foldl (leaveRoll guid) g

variable {g : Group}

theorem countRollVote_of_not_voter {player item : Guid} {rollType : BitVec 8}
    (h : ∀ roll ∈ g.rolls, roll.itemGUID = item → roll.playerVote.find? player = none) :
    g.countRollVote player item rollType = (g, none) := by
  rcases g.countRollVote_cases player item rollType with heq | ⟨roll, hroll, ⟨v, hv⟩, -⟩
  · exact heq
  · have hitem : roll.itemGUID = item := by
      have hof := List.find?_some hroll
      rw [isRollOf, Bool.and_eq_true, beq_iff_eq] at hof
      exact hof.1
    rw [h roll (List.mem_of_find?_eq_some hroll) hitem] at hv
    cases hv

/-- **The vote that is counted is not found**: one pass takes the leaver out of the roll. -/
theorem leaveRoll_rolls (hitems : (g.rolls.map Roll.itemGUID).Nodup) (guid : Guid) (i : ℕ) :
    leaveRoll guid g i = { g with rolls := g.rolls.modify i (·.removeVoter guid) } := by
  unfold leaveRoll
  cases hi : g.rolls[i]? with
  | none =>
    rw [List.modify_eq_self (List.getElem?_eq_none_iff.mp hi)]
  | some roll =>
    obtain ⟨hlt, rfl⟩ := List.getElem?_eq_some_iff.mp hi
    have hmodify : g.rolls.modify i (·.removeVoter guid) =
        g.rolls.set i (g.rolls[i].removeVoter guid) := List.modify_eq_set_get _ hlt
    dsimp only
    split_ifs with hvote
    · rw [hmodify, countRollVote_of_not_voter]
      -- The roll over the item is the one that the leaver has just left.
      intro roll hroll hitem
      obtain ⟨j, hj, rfl⟩ := List.getElem_of_mem hroll
      rw [List.length_set] at hj
      rw [List.getElem_set] at hitem ⊢
      split_ifs at hitem ⊢ with hij
      · exact Roll.removeVoter_find? _ guid
      · have hj' : j < (g.rolls.map Roll.itemGUID).length := by simpa using hj
        have hlt' : i < (g.rolls.map Roll.itemGUID).length := by simpa using hlt
        have hget : (g.rolls.map Roll.itemGUID)[j] = (g.rolls.map Roll.itemGUID)[i] := by
          simpa using hitem
        exact absurd (hitems.getElem_inj_iff.mp hget).symm hij
    · have hself : g.rolls[i].removeVoter guid = g.rolls[i] := by
        rw [Roll.removeVoter, Option.not_isSome_iff_eq_none.mp hvote]
      rw [hmodify, hself, List.set_getElem_self]

theorem getElem?_foldl_modify {α : Type*} (f : α → α) (l : List α) (n j : ℕ) :
    ((List.range n).foldl (fun l i => l.modify i f) l)[j]? =
      if j < n then l[j]?.map f else l[j]? := by
  induction n with
  | zero => simp
  | succ n ih =>
    rw [List.range_succ, List.foldl_append, List.foldl_cons, List.foldl_nil, List.getElem?_modify,
      ih]
    by_cases hj : n = j
    · subst hj
      simp
    · have hiff : j < n + 1 ↔ j < n := by omega
      simp [hj, hiff]

/-- **The loop takes the leaver out of every roll**, and does nothing else. -/
theorem leaveRolls_eq_map (hitems : (g.rolls.map Roll.itemGUID).Nodup) (guid : Guid) :
    g.leaveRolls guid = { g with rolls := g.rolls.map fun r => r.removeVoter guid } := by
  have hfold : ∀ n, (List.range n).foldl (leaveRoll guid) g = { g with
      rolls :=
        (List.range n).foldl (fun rolls i => rolls.modify i (·.removeVoter guid)) g.rolls } := by
    intro n
    induction n with
    | zero => rfl
    | succ n ih =>
      have hsame : ((List.range n).foldl (fun rolls i => rolls.modify i (·.removeVoter guid))
          g.rolls).map Roll.itemGUID = g.rolls.map Roll.itemGUID := by
        refine List.ext_getElem? fun j => ?_
        rw [List.getElem?_map, getElem?_foldl_modify, List.getElem?_map]
        split_ifs
        · simp [Function.comp_def]
        · rfl
      rw [List.range_succ, List.foldl_append, ih, List.foldl_cons, List.foldl_nil,
        leaveRoll_rolls (by rw [hsame]; exact hitems), List.foldl_append]
      rfl
  rw [leaveRolls, hfold]
  congr 1
  refine List.ext_getElem? fun j => ?_
  rw [getElem?_foldl_modify, List.getElem?_map]
  split_ifs with hj
  · rfl
  · rw [List.getElem?_eq_none (not_lt.mp hj), Option.map_none]

/-- What a removal that the group survives does to its rolls: the loop over them. -/
theorem removeMember_rolls {g g' : Group} {guid : Guid} {method : RemoveMethod}
    {env : RemoveEnv} (h : g.removeMember guid method env = some g') :
    g'.rolls = if g.isLFGGroup ∧ method = .kick then g.rolls
      else g.rolls.map fun r => r.removeVoter guid := by
  rcases g.removeMember_cases guid method env with ⟨heq, hkick⟩ | heq | ⟨heq, hkick, -⟩ <;>
    rw [heq] at h <;> cases h
  · rw [if_pos hkick]
  · rw [if_neg hkick, dropMember]
    split_ifs <;> simp

end Group

/-! ## Counted rolls -/

namespace Roll

/-- **Every vote is in its counter**, which may be more: a second vote leaves the first one
counted. -/
structure Counted (r : Roll) : Prop where
  countVotes_le : ∀ t, r.countVotes t.counts ≤ (r.counter t).toNat
  counter_lt : ∀ t, (r.counter t).toNat < 255
  rolling : r.totalPlayersRolling.toNat = r.countVotes fun _ => true
  valid : ∀ v ∈ r.playerVote.values, v ≠ .notValid

/-- Somebody beside the leaver has yet to vote: the votes of the roll, with the leaver's if it is
still to come, are fewer than the players. -/
def WaitsForOthers (r : Roll) (guid : Guid) : Prop :=
  r.totalPass.toNat + r.totalNeed.toNat + r.totalGreed.toNat +
      (if r.playerVote.find? guid = some .notEmitedYet then 1 else 0) <
    r.totalPlayersRolling.toNat

instance (r : Roll) (guid : Guid) : Decidable (r.WaitsForOthers guid) :=
  inferInstanceAs (Decidable (_ < _))

variable {r : Roll}

theorem Tallied.counted (h : r.Tallied) (hsize : r.totalPlayersRolling.toNat < 255) :
    r.Counted where
  countVotes_le t := (h.counter_eq t).ge
  counter_lt t := by
    rw [h.counter_eq]
    exact (r.countVotes_le _).trans_lt (h.rolling ▸ hsize)
  rolling := h.rolling
  valid := h.valid

@[simp] theorem start_itemGUID (itemGUID : Guid) (loot : ℕ) (lootItemsEmpty : Bool)
    (players : List (Guid × Bool)) :
    (start itemGUID loot lootItemsEmpty players).itemGUID = itemGUID := by
  have hfold : ∀ (players : List (Guid × Bool)) (r : Roll),
      (players.foldl (fun r e => r.addPlayer e.1 e.2) r).itemGUID = r.itemGUID := by
    intro players
    induction players with
    | nil => exact fun _ => rfl
    | cons e players ih =>
      intro r
      rw [List.foldl_cons, ih]
      unfold addPlayer
      split_ifs <;> rfl
  exact hfold players _

theorem start_totalPlayersRolling {players : List (Guid × Bool)} (hsize : players.length < 255)
    {itemGUID : Guid} {loot : ℕ} {lootItemsEmpty : Bool} :
    (start itemGUID loot lootItemsEmpty players).totalPlayersRolling.toNat = players.length := by
  have hfold : ∀ (players : List (Guid × Bool)) (r : Roll),
      r.totalPlayersRolling.toNat + players.length < 255 →
      (players.foldl (fun r e => r.addPlayer e.1 e.2) r).totalPlayersRolling.toNat =
        r.totalPlayersRolling.toNat + players.length := by
    intro players
    induction players with
    | nil => exact fun _ _ => rfl
    | cons e players ih =>
      intro r hlen
      rw [List.length_cons] at hlen
      have hone := toNat_add_ite (x := r.totalPlayersRolling) (by omega) true
      have hrolling := r.addPlayer_totalPlayersRolling e.1 e.2
      simp only [if_true] at hone
      rw [List.foldl_cons, ih _ (by rw [hrolling]; omega), hrolling, hone, List.length_cons]
      omega
  have hall := hfold players ⟨itemGUID, some loot, lootItemsEmpty, OrderedMap.empty, 0, 0, 0, 0⟩
    (by simpa using hsize)
  simpa [start] using hall

variable {guid : Guid} {v : RollVote}

theorem Counted.toNat_removeVoter (h : r.Counted)
    (hv : r.playerVote.find? guid = some v) (t : Tally) :
    ((r.removeVoter guid).counter t).toNat + (if t.counts v then 1 else 0) =
      (r.counter t).toNat := by
  have hmem : v ∈ r.playerVote.values := mem_values.mpr ⟨guid, hv⟩
  rw [(removeVoter_eq hv (h.valid v hmem)).1 t]
  refine toNat_sub_ite fun ht => ?_
  have hpos : 0 < r.countVotes t.counts := List.countP_pos_iff.mpr ⟨v, hmem, ht⟩
  exact hpos.trans_le (h.countVotes_le t)

theorem Counted.rolling_removeVoter (h : r.Counted) (hv : r.playerVote.find? guid = some v) :
    (r.removeVoter guid).totalPlayersRolling.toNat + 1 = r.totalPlayersRolling.toNat := by
  have hmem : v ∈ r.playerVote.values := mem_values.mpr ⟨guid, hv⟩
  rw [(removeVoter_eq hv (h.valid v hmem)).2.2]
  refine toNat_sub_ite (b := true) fun _ => ?_
  have hpos : 0 < r.countVotes fun _ => true := List.countP_pos_iff.mpr ⟨v, hmem, rfl⟩
  rwa [h.rolling]

/-- **A leaver** is taken out of the counter of their vote. -/
theorem Counted.removeVoter (h : r.Counted) (guid : Guid) : (r.removeVoter guid).Counted := by
  cases hv : r.playerVote.find? guid with
  | none => simpa [Roll.removeVoter, hv] using h
  | some v =>
    have hmem : v ∈ r.playerVote.values := mem_values.mpr ⟨guid, hv⟩
    obtain ⟨-, hvotes, -⟩ := removeVoter_eq hv (h.valid v hmem)
    have herase := countP_values_erase hv
    refine ⟨fun t => ?_, fun t => ?_, ?_, fun x hx => ?_⟩
    · have hq := herase t.counts
      have hcounter := h.toNat_removeVoter hv t
      have hle := h.countVotes_le t
      rw [countVotes, hvotes]
      simp only [countVotes] at hle
      omega
    · have hcounter := h.toNat_removeVoter hv t
      have hlt := h.counter_lt t
      omega
    · have hq := herase fun _ => true
      have hone := h.rolling_removeVoter hv
      have hrolling := h.rolling
      rw [countVotes, hvotes]
      simp only [countVotes, if_true] at hrolling hq
      omega
    · rw [hvotes] at hx
      exact h.valid x ((values_perm_erase hv).symm.subset (List.mem_cons_of_mem _ hx))

theorem Counted.vote (h : r.Counted) (hv : r.playerVote.find? guid = some v) {rollType : BitVec 8}
    (hopen : ¬ (r.vote guid rollType).isComplete = true) : (r.vote guid rollType).Counted := by
  cases htype : RollVote.ofRollType rollType with
  | none => simpa [Roll.vote, htype] using h
  | some w =>
    obtain ⟨hcounter, hvotes, hrolling⟩ := r.vote_eq guid htype
    have hnat : ∀ t, ((r.vote guid rollType).counter t).toNat =
        (r.counter t).toNat + if t.counts w then 1 else 0 := fun t => by
      rw [hcounter, toNat_add_ite (h.counter_lt t)]
    refine ⟨fun t => ?_, fun t => ?_, ?_, ?_⟩
    · have hset := countP_values_set hv w t.counts
      have hle := h.countVotes_le t
      rw [hnat, countVotes, hvotes]
      simp only [countVotes] at hle
      omega
    · -- No counter exceeds the votes of an open roll, which are fewer than its players.
      have hsum : (r.vote guid rollType).totalPass.toNat + (r.vote guid rollType).totalNeed.toNat +
          (r.vote guid rollType).totalGreed.toNat <
            (r.vote guid rollType).totalPlayersRolling.toNat := by
        simpa [isComplete] using hopen
      cases t <;> simp only [counter] <;> omega
    · have hset := countP_values_set hv w fun _ => true
      have heq := h.rolling
      rw [hrolling, countVotes, hvotes]
      simp only [countVotes, if_true] at heq hset
      omega
    · rw [hvotes]
      exact valid_set h.valid guid (ofRollType_eq_some htype).2

/-- **When the rest of a roll is open**: somebody beside the leaver has yet to vote. -/
theorem Counted.isComplete_removeVoter (h : r.Counted) (guid : Guid) :
    (r.removeVoter guid).isComplete = false ↔ r.WaitsForOthers guid := by
  cases hv : r.playerVote.find? guid with
  | none => simp [WaitsForOthers, Roll.removeVoter, isComplete, hv]
  | some v =>
    have hpass := h.toNat_removeVoter hv .pass
    have hneed := h.toNat_removeVoter hv .need
    have hgreed := h.toNat_removeVoter hv .greed
    have hrolling := h.rolling_removeVoter hv
    have hvalid := h.valid v (mem_values.mpr ⟨guid, hv⟩)
    simp only [WaitsForOthers, isComplete, hv, decide_eq_false_iff_not, not_le, counter,
      Option.some.injEq] at *
    cases v <;> simp [Tally.counts] at * <;> omega

end Roll

/-! ## Every run -/

namespace GroupState

/-- **The condition on an event**: a new roll is among fewer players than a byte can count to. -/
def RollsFit (s : GroupState) : GroupOp → Prop
  | .startRoll _ _ mayLoot autoPass =>
    ∀ g ∈ s.group, (g.rollingPlayers mayLoot autoPass).length < 255
  | _ => True

instance (s : GroupState) : ∀ op, Decidable (s.RollsFit op)
  | .startRoll .. => inferInstanceAs (Decidable (∀ g ∈ s.group, _ < 255))
  | .addMember _
  | .create .. | .removeMember .. | .changeLeader _ | .convertToRaid | .convertToLFG
  | .changeSubGroup .. | .setAssistant .. | .login _ | .logout _ | .enterWorld _ | .leaveWorld _
  | .lootRoll .. | .endRoll _ | .deleteLoot _ => .isTrue trivial

variable {s : GroupState}

/-- **One event** keeps the rolls counted, also when a player votes again. -/
theorem RollsAre.step_counted {op : GroupOp} (h : s.RollsAre Roll.Counted)
    (hok : s.RollsFit op) : (s.step op).RollsAre Roll.Counted := by
  refine h.step ?_ (fun _ _ _ _ _ _ roll v _ hr hv _ hopen => hr.vote hv hopen)
    (fun _ guid hr => hr.removeVoter guid)
    fun _ hr => ⟨hr.countVotes_le, hr.counter_lt, hr.rolling, hr.valid⟩
  rintro loot lootItemsEmpty mayLoot autoPass rfl g hg players hnodup rfl
  have hsize := hok g hg
  have htallied := Roll.tallied_start s.nextItemGuid loot lootItemsEmpty hnodup (by omega)
  refine htallied.counted ?_
  rw [Roll.start_totalPlayersRolling hsize]
  exact hsize

theorem rollsCounted_after (ops : List GroupOp) (h : Admissible step RollsFit initial ops) :
    (after ops).RollsAre Roll.Counted :=
  run_invariant (RollsAre Roll.Counted) (fun _ _ hs hok => hs.step_counted hok)
    (fun _ hg => (by cases hg)) h

/-- The items of a group's rolls. -/
def items (g : Group) : List Guid := g.rolls.map Roll.itemGUID

/-- The invariant: every item is rolled for once, and has a guid that was given out. -/
def ItemsOnce (s : GroupState) : Prop :=
  ∀ g, s.group = some g → (items g).Nodup ∧ ∀ item ∈ items g, item < s.nextItemGuid

theorem ItemsOnce.of_sublist {s' : GroupState} (h : s.ItemsOnce)
    (hnext : s.nextItemGuid ≤ s'.nextItemGuid)
    (hsub : ∀ g', s'.group = some g' → items g' = [] ∨ ∃ g, s.group = some g ∧
      (items g').Sublist (items g)) : s'.ItemsOnce := by
  intro g' hg'
  rcases hsub g' hg' with hnil | ⟨g, hg, hg'⟩
  · simp [hnil]
  · obtain ⟨hnodup, hlt⟩ := h g hg
    exact ⟨hnodup.sublist hg', fun item hitem => (hlt item (hg'.subset hitem)).trans_le hnext⟩

theorem ItemsOnce.update {f : Group → Group} (h : s.ItemsOnce)
    (hf : ∀ g, (items (f g)).Sublist (items g)) : (s.update f).ItemsOnce := by
  refine h.of_sublist le_rfl fun g' hg' => ?_
  obtain ⟨g, hg, rfl⟩ := Option.map_eq_some_iff.mp hg'
  exact .inr ⟨g, hg, hf g⟩

/-- **One event** gives every new roll an item of its own. -/
theorem ItemsOnce.step {s : GroupState} (h : s.ItemsOnce) (op : GroupOp) :
    (s.step op).ItemsOnce := by
  have hsame : ∀ {g g' : Group}, g'.rolls = g.rolls → (items g').Sublist (items g) :=
    fun heq => by rw [items, heq, items]
  cases op with
  | create leader isBG isBF =>
    cases hg : s.group with
    | none =>
      refine h.of_sublist (by simp [GroupState.step, hg]) fun g' hg' => .inl ?_
      simp only [GroupState.step, hg, Option.some.injEq] at hg'
      subst hg'
      simp [items, Group.create_eq]
    | some g => simpa [GroupState.step, hg] using h
  | addMember guid =>
    refine h.update fun g => hsame ?_
    rcases g.addMember_cases guid with heq | ⟨subgroup, heq, -⟩ <;> simp [heq]
  | removeMember guid method dungeonMapId leaderIsAlive leaderMapId =>
    refine h.of_sublist le_rfl fun g' hg' => .inr ?_
    obtain ⟨g, hg, hrem⟩ := Option.bind_eq_some_iff.mp hg'
    refine ⟨g, hg, ?_⟩
    rw [items, Group.removeMember_rolls hrem]
    split_ifs
    · exact List.Sublist.refl _
    · simp [items, Function.comp_def]
  | changeLeader guid => exact h.update fun g => hsame (g.changeLeader_rolls guid _)
  | convertToRaid => exact h.update fun _ => hsame rfl
  | convertToLFG => exact h.update fun _ => hsame rfl
  | changeSubGroup sender guid groupNr =>
    refine h.update fun g => hsame ?_
    rcases g.handleGroupChangeSubGroup_cases sender guid groupNr with heq | ⟨heq, -⟩
    · rw [heq]
    · rcases g.changeMembersGroup_cases guid groupNr with heq' | ⟨slot, -, -, heq'⟩
      · rw [heq, heq']
      · rw [heq, heq']
        rfl
  | setAssistant guid apply => exact h.update fun _ => hsame rfl
  | login guid => exact h.update fun g => hsame (by split_ifs <;> rfl)
  | logout guid => exact h.update fun _ => hsame rfl
  | enterWorld guid => exact h
  | leaveWorld guid => exact h
  | startRoll loot lootItemsEmpty mayLoot autoPass =>
    intro g' hg'
    obtain ⟨g, hg, rfl⟩ := Option.map_eq_some_iff.mp hg'
    obtain ⟨hnodup, hlt⟩ := h g hg
    have hlt' : ∀ item ∈ items g, item < s.nextItemGuid + 1 := fun item hitem =>
      (hlt item hitem).trans (Nat.lt_succ_self _)
    have hitems : ∀ players, items { g with rolls :=
        g.rolls ++ [Roll.start s.nextItemGuid loot lootItemsEmpty players] } =
          items g ++ [s.nextItemGuid] := fun players => by simp [items]
    unfold Group.startRoll
    split
    · exact ⟨hnodup, hlt'⟩
    · rw [hitems]
      refine ⟨?_, fun item hitem => ?_⟩
      · rw [List.nodup_append]
        refine ⟨hnodup, List.nodup_singleton _, fun item hitem item' hitem' heq => ?_⟩
        rw [List.mem_singleton.mp hitem'] at heq
        exact absurd (hlt item hitem) (heq ▸ lt_irrefl _)
      · rcases List.mem_append.mp hitem with hitem | hitem
        · exact hlt' item hitem
        · rw [List.mem_singleton.mp hitem]
          exact Nat.lt_succ_self _
  | lootRoll player item rollType =>
    cases hg : s.group with
    | none => simpa [GroupState.step, hg] using h
    | some g =>
      refine h.of_sublist (by simp [GroupState.step, hg]) fun g' hg' => .inr ⟨g, hg, ?_⟩
      simp only [GroupState.step, hg, Option.some.injEq] at hg'
      subst hg'
      rcases g.countRollVote_cases player item rollType with
        heq | ⟨roll, -, -, -, ⟨-, heq⟩ | ⟨-, heq⟩⟩ <;> rw [heq]
      · exact List.eraseP_sublist.map _
      · have hmap : (modifyFirst (Group.isRollOf item) (·.vote player rollType) g.rolls).map
            Roll.itemGUID = g.rolls.map Roll.itemGUID :=
          map_modifyFirst fun r : Roll => r.vote_itemGUID player rollType
        rw [items, items, hmap]
  | endRoll loot => exact h.update fun g => List.filter_sublist.map _
  | deleteLoot loot =>
    refine h.update fun g => ?_
    have hmap : items (g.invalidateLoot loot) = items g := by
      simp only [items, Group.invalidateLoot, List.map_map]
      exact List.map_congr_left fun r _ => by
        simp only [Function.comp_apply]
        split_ifs <;> rfl
    rw [hmap]

theorem nodup_items_after (ops : List GroupOp) {g : Group} (hg : (after ops).group = some g) :
    (g.rolls.map Roll.itemGUID).Nodup := by
  have hinv : (after ops).ItemsOnce :=
    foldl_invariant ItemsOnce (fun _ op _ hs => hs.step op) fun _ hg => by cases hg
  exact (hinv g hg).1

end GroupState

namespace Group

/-- **The condition on a removal**: no roll waits for the leaver alone; a vote kick that is left
to the vote removes nobody. -/
def RollsWait (g : Group) (guid : Guid) (method : RemoveMethod) : Prop :=
  if g.isLFGGroup ∧ method = .kick then ∀ roll ∈ g.rolls, roll.isComplete = false
  else ∀ roll ∈ g.rolls, roll.WaitsForOthers guid

instance (g : Group) (guid : Guid) (method : RemoveMethod) :
    Decidable (g.RollsWait guid method) := by
  unfold RollsWait
  infer_instance

/-- **Leaving strands a roll exactly when the roll waits for the leaver alone.** -/
theorem removeMember_strandsNoRoll_iff {g g' : Group}
    (hcounted : ∀ roll ∈ g.rolls, roll.Counted) {guid : Guid} {method : RemoveMethod}
    {env : RemoveEnv} (h : g.removeMember guid method env = some g') :
    (∀ roll ∈ g'.rolls, roll.isComplete = false) ↔ g.RollsWait guid method := by
  rw [removeMember_rolls h, RollsWait]
  split_ifs with hkick
  · exact Iff.rfl
  · rw [List.forall_mem_map]
    exact forall₂_congr fun roll hroll => (hcounted roll hroll).isComplete_removeVoter guid

/-- Three players roll for an item, and two of them have voted. -/
def oneVoteOutstanding : List GroupOp :=
  [.enterWorld 1, .enterWorld 2, .enterWorld 3, .create 1 false false, .addMember 2, .addMember 3,
    .startRoll 0 false (fun _ => true) (fun _ => false), .lootRoll 1 1 1, .lootRoll 2 1 0]

/-- Everybody is in the world, and nobody is in a dungeon. -/
def everywhere : RemoveEnv := ⟨fun _ => true, 0, true, 0⟩

/-- The first player leaves, who has voted: the roll waits for the third. -/
theorem removeMember_strandsNoRoll_oneVoteOutstanding :
    ∃ g g', (GroupState.after oneVoteOutstanding).group = some g ∧
      g.removeMember 1 .leave everywhere = some g' ∧
      ∀ roll ∈ g'.rolls, roll.isComplete = false := by
  have hfit : Admissible GroupState.step GroupState.RollsFit .initial oneVoteOutstanding := by
    decide
  have hiff : ∀ g g', (GroupState.after oneVoteOutstanding).group = some g →
      g.removeMember 1 .leave everywhere = some g' →
      ((∀ roll ∈ g'.rolls, roll.isComplete = false) ↔ g.RollsWait 1 .leave) :=
    fun g g' hg hg' =>
      removeMember_strandsNoRoll_iff (GroupState.rollsCounted_after _ hfit g hg).all hg'
  exact ⟨_, _, rfl, rfl, (hiff _ _ rfl rfl).mpr (by decide)⟩

/-- **In every run** the model's removal is the source's loop: no roll is resolved by it. -/
theorem detachMember_after (ops : List GroupOp) {g : Group}
    (hg : (GroupState.after ops).group = some g) (guid : Guid) (inWorld : Guid → Bool) :
    g.detachMember guid inWorld =
      ((if inWorld guid || !(g.isBG || g.isBF) then g.delinkMember guid else g).leaveRolls
        guid).eraseSlot guid := by
  rw [leaveRolls_eq_map]
  · rfl
  · have hitems := GroupState.nodup_items_after ops hg
    split_ifs <;> exact hitems

theorem detachMember_after_oneVoteOutstanding :
    ∃ g, (GroupState.after oneVoteOutstanding).group = some g ∧
      g.detachMember 3 (fun _ => true) = ((g.delinkMember 3).leaveRolls 3).eraseSlot 3 :=
  ⟨_, rfl, detachMember_after oneVoteOutstanding rfl 3 _⟩

/-- The third player leaves: the roll stays, with every vote of those who are still there. -/
theorem not_removeMember_strandsNoRoll :
    ¬ ∀ (ops : List GroupOp) (g g' : Group) (guid : Guid) (method : RemoveMethod)
      (env : RemoveEnv), (GroupState.after ops).group = some g →
      (∀ roll ∈ g.rolls, roll.isValid = true) → g.removeMember guid method env = some g' →
      ∀ roll ∈ g'.rolls, roll.isComplete = false := by
  intro h
  have hstays := h oneVoteOutstanding _ _ 3 .leave everywhere rfl (by decide) rfl
  revert hstays
  decide

end Group

end TeraCore
