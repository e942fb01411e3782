import TeraCore.Groups.Machine

/-!
# The tally of a loot roll

A message on a roll counts the new vote and forgets the old one, which it does not take out of
its counter.  A player who votes once is counted once: the counters agree with the votes, and a
roll that ends early has every player's vote, in every run in which nobody votes twice.

## Main results

* `Roll.Tallied.vote`, `Roll.Tallied.removeVoter`: a first vote, and a player who leaves
* `Roll.Tallied.all_voted`: a complete roll has every vote
* `GroupState.RollsAre.step`: a property of the rolls that votes and leavers keep
* `GroupState.talliesAgree_after`: the counters, and the rolls that ended early, after every run
-/

namespace TeraCore

open Commons OrderedMap

namespace Roll

/-- The number of votes of a kind. -/
def countVotes (r : Roll) (q : RollVote → Bool) : ℕ := r.playerVote.values.countP q

inductive Tally where
  | need
  | greed
  | pass
  deriving DecidableEq

def Tally.counts : Tally → RollVote → Bool
  | need, v => v = .need
  | greed, v => v = .greed || v = .disenchant
  | pass, v => v = .pass

/-- A counter's value. -/
def counter (r : Roll) : Tally → BitVec 8
  | .need => r.totalNeed
  | .greed => r.totalGreed
  | .pass => r.totalPass

/-- **The counters are the numbers of the votes**, and the players who roll are those who have
one. -/
structure Tallied (r : Roll) : Prop where
  counter_eq : ∀ t, (r.counter t).toNat = r.countVotes t.counts
  rolling : r.totalPlayersRolling.toNat = r.countVotes fun _ => true
  valid : ∀ v ∈ r.playerVote.values, v ≠ .notValid

variable {r : Roll}

theorem countVotes_le (r : Roll) (q : RollVote → Bool) :
    r.countVotes q ≤ r.countVotes fun _ => true :=
  List.countP_mono_left fun _ _ _ => rfl

theorem countVotes_add (r : Roll) (hvalid : ∀ v ∈ r.playerVote.values, v ≠ .notValid) :
    r.countVotes Tally.pass.counts + r.countVotes Tally.need.counts +
        r.countVotes Tally.greed.counts =
      r.countVotes (· ≠ .notEmitedYet) := by
  simp only [countVotes]
  generalize r.playerVote.values = votes at hvalid
  induction votes with
  | nil => rfl
  | cons v votes ih =>
    cases v <;> simp_all [Tally.counts] <;> omega

theorem Tallied.all_voted (h : r.Tallied) (hc : r.isComplete = true) :
    ∀ v ∈ r.playerVote.values, v ≠ .notEmitedYet := by
  have hadd := countVotes_add r h.valid
  have hle : (r.countVotes fun _ => true) ≤ r.countVotes (· ≠ .notEmitedYet) := by
    have hsum := of_decide_eq_true hc
    have hpass := h.counter_eq .pass
    have hneed := h.counter_eq .need
    have hgreed := h.counter_eq .greed
    have hrolling := h.rolling
    simp only [counter] at hpass hneed hgreed
    omega
  have hall : r.playerVote.values.countP (· ≠ .notEmitedYet) = r.playerVote.values.length :=
    le_antisymm List.countP_le_length (by simpa [countVotes] using hle)
  intro v hv
  simpa using List.countP_eq_length.mp hall v hv

/-! ## One more, and one less -/

theorem toNat_add_ite {x : BitVec 8} (h : x.toNat < 255) (b : Bool) :
    (x + if b then 1 else 0).toNat = x.toNat + if b then 1 else 0 := by
  cases b
  · simp
  · simp only [if_true]
    bv_omega

theorem toNat_sub_ite {x : BitVec 8} {b : Bool} (h : b = true → 0 < x.toNat) :
    (x - if b then 1 else 0).toNat + (if b then 1 else 0) = x.toNat := by
  cases b with
  | false => simp
  | true =>
    have := h rfl
    simp only [if_true]
    bv_omega

variable {w : RollVote} {guid : Guid} {rollType : BitVec 8}

theorem valid_set (hvalid : ∀ v ∈ r.playerVote.values, v ≠ .notValid) (guid : Guid)
    (hw : w ≠ .notValid) :
    ∀ v ∈ (r.playerVote.set guid w).values, v ≠ .notValid := by
  intro v hv
  obtain ⟨k, hk⟩ := mem_values.mp hv
  rw [find?_set] at hk
  split_ifs at hk
  · exact Option.some.inj hk ▸ hw
  · exact hvalid v (mem_values.mpr ⟨k, hk⟩)

/-! ## A new roll -/

theorem addPlayer_counter (r : Roll) (guid : Guid) (autoPass : Bool) (t : Tally) :
    (r.addPlayer guid autoPass).counter t =
      r.counter t + if t.counts (if autoPass then .pass else .notEmitedYet) then 1 else 0 := by
  cases autoPass <;> cases t <;> simp [addPlayer, counter, Tally.counts]

theorem addPlayer_playerVote (r : Roll) (guid : Guid) (autoPass : Bool) :
    (r.addPlayer guid autoPass).playerVote =
      r.playerVote.set guid (if autoPass then .pass else .notEmitedYet) := by
  cases autoPass <;> rfl

theorem addPlayer_totalPlayersRolling (r : Roll) (guid : Guid) (autoPass : Bool) :
    (r.addPlayer guid autoPass).totalPlayersRolling = r.totalPlayersRolling + 1 := by
  cases autoPass <;> rfl

theorem addPlayer_countVotes (hnew : r.playerVote.find? guid = none)
    (autoPass : Bool) (q : RollVote → Bool) :
    (r.addPlayer guid autoPass).countVotes q =
      r.countVotes q + if q (if autoPass then .pass else .notEmitedYet) then 1 else 0 := by
  rw [countVotes, addPlayer_playerVote, countP_values_set_of_none hnew, countVotes]

theorem Tallied.addPlayer (h : r.Tallied) (hnew : r.playerVote.find? guid = none)
    (hsize : (r.countVotes fun _ => true) < 255) (autoPass : Bool) :
    (r.addPlayer guid autoPass).Tallied := by
  refine ⟨fun t => ?_, ?_, ?_⟩
  · have hlt : (r.counter t).toNat < 255 := by
      rw [h.counter_eq]
      exact (r.countVotes_le _).trans_lt hsize
    rw [addPlayer_counter, toNat_add_ite hlt, addPlayer_countVotes hnew, h.counter_eq]
  · have hone := toNat_add_ite (h.rolling ▸ hsize : r.totalPlayersRolling.toNat < 255) true
    rw [addPlayer_totalPlayersRolling, addPlayer_countVotes hnew, ← h.rolling]
    exact hone
  · rw [addPlayer_playerVote]
    exact valid_set h.valid guid (by cases autoPass <;> decide)

theorem tallied_start (itemGUID : Guid) (loot : ℕ) (lootItemsEmpty : Bool)
    {players : List (Guid × Bool)} (hnodup : (players.map Prod.fst).Nodup)
    (hsize : players.length < 256) : (start itemGUID loot lootItemsEmpty players).Tallied := by
  have hfold : ∀ (players : List (Guid × Bool)) (r : Roll), r.Tallied →
      (players.map Prod.fst).Nodup → (∀ e ∈ players, r.playerVote.find? e.1 = none) →
      (r.countVotes fun _ => true) + players.length < 256 →
      (players.foldl (fun r e => r.addPlayer e.1 e.2) r).Tallied := by
    intro players
    induction players with
    | nil => exact fun r h _ _ _ => h
    | cons e players ih =>
      intro r h hnd hnew hlen
      rw [List.map_cons, List.nodup_cons] at hnd
      rw [List.length_cons] at hlen
      have he := hnew e (by simp)
      refine ih _ (h.addPlayer he (by omega) e.2) hnd.2 (fun e' he' => ?_) ?_
      · have hne : e'.1 ≠ e.1 := fun heq => hnd.1 (heq ▸ List.mem_map_of_mem he')
        rw [addPlayer_playerVote, find?_set_of_ne _ _ hne]
        exact hnew e' (List.mem_cons_of_mem _ he')
      · rw [addPlayer_countVotes he]
        simp only [if_true]
        omega
  refine hfold players _ ⟨fun t => ?_, rfl, ?_⟩ hnodup (fun _ _ => rfl) ?_
  · cases t <;> rfl
  · simp [OrderedMap.values, OrderedMap.empty]
  · simpa [countVotes, OrderedMap.values, OrderedMap.empty] using hsize

/-! ## Votes and leavers -/

theorem ofRollType_eq_some
    (h : RollVote.ofRollType rollType = some w) : w ≠ .notEmitedYet ∧ w ≠ .notValid := by
  simp only [RollVote.ofRollType] at h
  split at h <;> cases h <;> decide

theorem vote_eq (r : Roll) (guid : Guid) (h : RollVote.ofRollType rollType = some w) :
    (∀ t, (r.vote guid rollType).counter t = r.counter t + if t.counts w then 1 else 0) ∧
      (r.vote guid rollType).playerVote = r.playerVote.set guid w ∧
      (r.vote guid rollType).totalPlayersRolling = r.totalPlayersRolling := by
  obtain ⟨hyet, hvalid⟩ := ofRollType_eq_some h
  simp only [vote, h]
  cases w with
  | notEmitedYet => exact absurd rfl hyet
  | notValid => exact absurd rfl hvalid
  | _ => exact ⟨fun t => by cases t <;> simp [counter, Tally.counts], rfl, rfl⟩

/-- **A first vote** is counted once. A roll type that asks for no vote changes nothing. -/
theorem Tallied.vote (h : r.Tallied) {v : RollVote} (hv : r.playerVote.find? guid = some v)
    (honce : (RollVote.ofRollType rollType).isSome = true → v = .notEmitedYet) :
    (r.vote guid rollType).Tallied := by
  cases htype : RollVote.ofRollType rollType with
  | none => simpa [Roll.vote, htype] using h
  | some w =>
    obtain rfl : v = .notEmitedYet := honce (by simp [htype])
    obtain ⟨hcounter, hvotes, hrolling⟩ := r.vote_eq guid htype
    have hcount := fun q => countP_values_set hv w q
    refine ⟨fun t => ?_, ?_, ?_⟩
    · have hyet : t.counts .notEmitedYet = false := by cases t <;> rfl
      have hset := hcount t.counts
      rw [hyet] at hset
      have hlt : (r.counter t).toNat < 255 := by
        -- the voter is one of at most 255 players, and is in no counter yet
        have herase := countP_values_erase hv t.counts
        have hall := countP_values_erase hv fun _ => true
        have hle : (r.playerVote.erase guid).values.countP t.counts ≤
            (r.playerVote.erase guid).values.countP fun _ => true :=
          List.countP_mono_left fun _ _ _ => rfl
        have htotal := h.rolling ▸ r.totalPlayersRolling.isLt
        rw [h.counter_eq]
        simp only [countVotes, hyet, Bool.false_eq_true, if_false, if_true] at *
        omega
      have hafter : (r.vote guid rollType).countVotes t.counts =
          (r.playerVote.set guid w).values.countP t.counts := by rw [countVotes, hvotes]
      rw [hcounter, toNat_add_ite hlt, h.counter_eq, hafter]
      exact hset.symm
    · have hset := hcount fun _ => true
      rw [hrolling, h.rolling, countVotes, countVotes, hvotes]
      omega
    · rw [hvotes]
      exact valid_set h.valid guid (ofRollType_eq_some htype).2

theorem removeVoter_eq {v : RollVote} (hv : r.playerVote.find? guid = some v)
    (hvalid : v ≠ .notValid) :
    (∀ t, (r.removeVoter guid).counter t = r.counter t - if t.counts v then 1 else 0) ∧
      (r.removeVoter guid).playerVote = r.playerVote.erase guid ∧
      (r.removeVoter guid).totalPlayersRolling = r.totalPlayersRolling - 1 := by
  simp only [removeVoter, hv, hvalid, if_false]
  refine ⟨fun t => ?_, trivial, trivial⟩
  cases t <;> cases v <;> simp [counter, Tally.counts]

/-- **A leaver** is taken out of the counter of their vote. -/
theorem Tallied.removeVoter (h : r.Tallied) (guid : Guid) : (r.removeVoter guid).Tallied := by
  cases hv : r.playerVote.find? guid with
  | none => simpa [Roll.removeVoter, hv] using h
  | some v =>
    have hvalid : v ≠ .notValid := h.valid v (mem_values.mpr ⟨guid, hv⟩)
    obtain ⟨hcounter, hvotes, hrolling⟩ := removeVoter_eq hv hvalid
    have herase := countP_values_erase hv
    refine ⟨fun t => ?_, ?_, fun x hx => ?_⟩
    · have hq := herase t.counts
      have hpos : t.counts v = true → 0 < (r.counter t).toNat := fun ht => by
        rw [h.counter_eq, countVotes, ← hq, ht]
        simp
      have hsub := toNat_sub_ite hpos
      have heq := h.counter_eq t
      rw [hcounter, countVotes, hvotes]
      simp only [countVotes] at heq
      omega
    · have hq := herase fun _ => true
      have heq := h.rolling
      have hsub := toNat_sub_ite (x := r.totalPlayersRolling) (b := true) fun _ => by
        rw [heq, countVotes, ← hq]
        simp
      rw [hrolling, countVotes, hvotes]
      simp only [countVotes, if_true] at heq hq hsub
      omega
    · rw [hvotes] at hx
      exact h.valid x ((values_perm_erase hv).symm.subset (List.mem_cons_of_mem _ hx))

end Roll

/-! ## The rolls of a group -/

namespace Group

structure RollsAre (P : Roll → Prop) (g : Group) : Prop where
  nodup : g.memberMgr.Nodup
  all : ∀ roll ∈ g.rolls, P roll

/-- The invariant: every member is linked once, and every roll is tallied. -/
structure RollsTallied (g : Group) : Prop where
  nodup : g.memberMgr.Nodup
  tallied : ∀ roll ∈ g.rolls, roll.Tallied

variable {P : Roll → Prop} {g : Group}

theorem rollsTallied_iff : g.RollsTallied ↔ g.RollsAre Roll.Tallied :=
  ⟨fun h => ⟨h.nodup, h.tallied⟩, fun h => ⟨h.nodup, h.all⟩⟩

namespace RollsAre

theorem linkMember (h : g.RollsAre P) (guid : Guid) : (g.linkMember guid).RollsAre P :=
  ⟨List.nodup_cons.mpr ⟨h.nodup.not_mem_erase, h.nodup.erase guid⟩, h.all⟩

theorem delinkMember (h : g.RollsAre P) (guid : Guid) : (g.delinkMember guid).RollsAre P :=
  ⟨h.nodup.erase guid, h.all⟩

theorem pushSlot (h : g.RollsAre P) (guid : Guid) (subgroup : ℕ) :
    (g.pushSlot guid subgroup).RollsAre P := by
  have hslot : RollsAre P (Group.subGroupCounterIncrease
      { g with memberSlots := g.memberSlots ++ [⟨guid, subgroup, 0⟩] } subgroup) :=
    ⟨h.nodup, h.all⟩
  simp only [Group.pushSlot]
  split_ifs
  · exact hslot.linkMember guid
  · exact hslot

theorem addMember (h : g.RollsAre P) (guid : Guid) : (g.addMember guid).2.RollsAre P := by
  rcases g.addMember_cases guid with heq | ⟨subgroup, heq, -⟩
  · rwa [heq]
  · rw [heq]
    exact h.pushSlot guid subgroup

theorem create (leader : Guid) (isBG isBF : Bool) :
    (Group.create leader isBG isBF).RollsAre P := by
  have hfresh : (fresh leader isBG isBF).RollsAre P := by
    refine ⟨?_, by simp⟩
    simp only [fresh]
    split_ifs <;> exact List.nodup_nil
  exact hfresh.addMember leader

theorem changeLeader (h : g.RollsAre P) (guid : Guid) (inWorld : Guid → Bool) :
    (g.changeLeader guid inWorld).RollsAre P :=
  ⟨by rw [changeLeader_memberMgr]; exact h.nodup, by rw [changeLeader_rolls]; exact h.all⟩

theorem dropMember (h : g.RollsAre P) {guid : Guid}
    (hremove : ∀ roll, P roll → P (roll.removeVoter guid)) (inWorld : Guid → Bool) :
    (g.dropMember guid inWorld).RollsAre P := by
  have hdetach : (g.detachMember guid inWorld).RollsAre P := by
    constructor
    · simp only [detachMember, eraseSlot_memberMgr]
      split_ifs
      · exact h.nodup.erase guid
      · exact h.nodup
    · rw [detachMember_rolls]
      intro roll hroll
      obtain ⟨roll', hroll', rfl⟩ := List.mem_map.mp hroll
      exact hremove roll' (h.all roll' hroll')
  simp only [Group.dropMember]
  split_ifs
  · exact ⟨by rw [pickNewLeader_memberMgr]; exact hdetach.nodup,
      by rw [pickNewLeader_rolls]; exact hdetach.all⟩
  · exact hdetach

theorem removeMember {g' : Group} (h : g.RollsAre P) {guid : Guid}
    (hremove : ∀ roll, P roll → P (roll.removeVoter guid)) {method : RemoveMethod}
    {env : RemoveEnv} (hg' : g.removeMember guid method env = some g') : g'.RollsAre P := by
  rcases g.removeMember_cases guid method env with ⟨heq, -⟩ | heq | ⟨heq, -⟩ <;>
    rw [heq] at hg' <;> cases hg'
  · exact h
  · exact h.dropMember hremove _

theorem changeSubGroup (h : g.RollsAre P) (sender guid : Guid) (groupNr : ℕ) :
    (g.handleGroupChangeSubGroup sender guid groupNr).RollsAre P := by
  rcases g.handleGroupChangeSubGroup_cases sender guid groupNr with heq | ⟨heq, -⟩
  · rwa [heq]
  · rcases g.changeMembersGroup_cases guid groupNr with heq' | ⟨slot, -, -, heq'⟩
    · rwa [heq, heq']
    · rw [heq, heq']
      exact ⟨h.nodup, h.all⟩

theorem startRoll (h : g.RollsAre P) {itemGUID : Guid} {loot : ℕ} {lootItemsEmpty : Bool}
    {mayLoot autoPass : Guid → Bool}
    (hstart : ∀ players, (players.map Prod.fst).Nodup →
      players = g.rollingPlayers mayLoot autoPass →
      P (Roll.start itemGUID loot lootItemsEmpty players)) :
    (g.startRoll itemGUID loot lootItemsEmpty mayLoot autoPass).RollsAre P := by
  have hnodup : ((g.rollingPlayers mayLoot autoPass).map Prod.fst).Nodup := by
    simpa [rollingPlayers, Function.comp_def] using h.nodup.filter _
  unfold Group.startRoll
  split
  · exact h
  · refine ⟨h.nodup, fun roll hroll => ?_⟩
    rcases List.mem_append.mp hroll with hroll | hroll
    · exact h.all roll hroll
    · rw [List.mem_singleton.mp hroll]
      exact hstart _ hnodup rfl

theorem countRollVote (h : g.RollsAre P) {player item : Guid} {rollType : BitVec 8}
    (hvote : ∀ roll v, g.rolls.find? (isRollOf item) = some roll → P roll →
      roll.playerVote.find? player = some v → roll.lootItemsEmpty = false →
      ¬ (roll.vote player rollType).isComplete = true → P (roll.vote player rollType)) :
    (g.countRollVote player item rollType).1.RollsAre P := by
  rcases g.countRollVote_cases player item rollType with
    heq | ⟨roll, hroll, ⟨v, hv⟩, hempty, ⟨-, heq⟩ | ⟨hc, heq⟩⟩
  · rwa [heq]
  · rw [heq]
    exact ⟨h.nodup, fun r hr => h.all r (List.mem_of_mem_eraseP hr)⟩
  · rw [heq]
    refine ⟨h.nodup, fun r hr => ?_⟩
    rcases mem_modifyFirst hr with hr | ⟨roll', hroll', rfl⟩
    · exact h.all r hr
    · rw [hroll] at hroll'
      cases hroll'
      exact hvote roll v hroll (h.all roll (List.mem_of_find?_eq_some hroll)) hv hempty hc

theorem invalidateLoot (h : g.RollsAre P)
    (hnone : ∀ roll : Roll, P roll → P { roll with loot := none }) (loot : ℕ) :
    (g.invalidateLoot loot).RollsAre P := by
  refine ⟨h.nodup, fun roll hroll => ?_⟩
  obtain ⟨roll', hroll', rfl⟩ := List.mem_map.mp hroll
  have hall := h.all roll' hroll'
  split_ifs
  · exact hnone roll' hall
  · exact hall

end RollsAre

/-- **The condition on a message**: a vote in the valid roll over the item comes from a player
who has not voted in it yet. -/
def FirstVote (g : Group) (player item : Guid) (rollType : BitVec 8) : Prop :=
  match g.rolls.find? (isRollOf item) with
  | none => True
  | some roll => roll.lootItemsEmpty = false → (RollVote.ofRollType rollType).isSome = true →
      ∀ v ∈ roll.playerVote.find? player, v = .notEmitedYet

instance (g : Group) (player item : Guid) (rollType : BitVec 8) :
    Decidable (g.FirstVote player item rollType) := by
  unfold FirstVote
  split
  · infer_instance
  · next roll _ =>
    cases roll.playerVote.find? player with
    | none => exact isTrue fun _ _ v hv => by cases hv
    | some w =>
      exact decidable_of_iff (roll.lootItemsEmpty = false →
        (RollVote.ofRollType rollType).isSome = true → w = .notEmitedYet) (by simp)

theorem RollsTallied.voted_of_resolved (h : g.RollsTallied) {player item : Guid}
    {rollType : BitVec 8} (hfirst : g.FirstVote player item rollType) :
    ∀ roll ∈ (g.countRollVote player item rollType).2, ∀ v ∈ roll.playerVote.values,
      v ≠ .notEmitedYet := by
  rcases g.countRollVote_cases player item rollType with
    heq | ⟨roll, hroll, ⟨v, hv⟩, hempty, ⟨hc, heq⟩ | ⟨-, heq⟩⟩ <;> rw [heq]
  · exact fun _ hnone => by cases hnone
  · rintro _ ⟨rfl⟩
    have htallied := h.tallied roll (List.mem_of_find?_eq_some hroll)
    simp only [FirstVote, hroll] at hfirst
    exact (htallied.vote hv fun htype => hfirst hempty htype v hv).all_voted hc
  · exact fun _ hnone => by cases hnone

end Group

namespace GroupState

/-- **The condition on an event**: a vote is the player's first in the roll, and a new roll is
among at most 255 players. -/
def VotesOnce (s : GroupState) : GroupOp → Prop
  | .lootRoll player item rollType => ∀ g ∈ s.group, g.FirstVote player item rollType
  | .startRoll _ _ mayLoot autoPass =>
    ∀ g ∈ s.group, (g.rollingPlayers mayLoot autoPass).length < 256
  | _ => True

instance (s : GroupState) : ∀ op, Decidable (s.VotesOnce op)
  | .lootRoll player item rollType =>
    inferInstanceAs (Decidable (∀ g ∈ s.group, g.FirstVote player item rollType))
  | .startRoll .. => inferInstanceAs (Decidable (∀ g ∈ s.group, _ < 256))
  | .addMember _
  | .create .. | .removeMember .. | .changeLeader _ | .convertToRaid | .convertToLFG
  | .changeSubGroup .. | .setAssistant .. | .login _ | .logout _ | .enterWorld _ | .leaveWorld _
  | .endRoll _ | .deleteLoot _ => .isTrue trivial

def RollsAre (P : Roll → Prop) (s : GroupState) : Prop := ∀ g, s.group = some g → g.RollsAre P

/-- **One event** keeps a property of the rolls that new rolls have, and that votes, leavers and
deleted loot keep. -/
theorem RollsAre.step {P : Roll → Prop} {s : GroupState} {op : GroupOp} (h : s.RollsAre P)
    (hstart : ∀ loot lootItemsEmpty mayLoot autoPass,
      op = .startRoll loot lootItemsEmpty mayLoot autoPass → ∀ g, s.group = some g →
      ∀ players, (players.map Prod.fst).Nodup → players = g.rollingPlayers mayLoot autoPass →
      P (Roll.start s.nextItemGuid loot lootItemsEmpty players))
    (hvote : ∀ player item rollType, op = .lootRoll player item rollType →
      ∀ g, s.group = some g → ∀ roll v, g.rolls.find? (Group.isRollOf item) = some roll →
      P roll → roll.playerVote.find? player = some v → roll.lootItemsEmpty = false →
      ¬ (roll.vote player rollType).isComplete = true → P (roll.vote player rollType))
    (hremove : ∀ roll guid, P roll → P (roll.removeVoter guid))
    (hnone : ∀ roll : Roll, P roll → P { roll with loot := none }) : (s.step op).RollsAre P := by
  have h : s.GroupIs (Group.RollsAre P) := h
  cases op with
  | create leader isBG isBF => exact h.create (Group.RollsAre.create leader isBG isBF)
  | addMember guid => exact h.update fun g _ hr => hr.addMember guid
  | removeMember guid method dungeonMapId leaderIsAlive leaderMapId =>
    intro g' hg'
    obtain ⟨g, hg, hrem⟩ := Option.bind_eq_some_iff.mp hg'
    exact (h g hg).removeMember (hremove · guid) hrem
  | changeLeader guid => exact h.update fun g _ hr => hr.changeLeader guid _
  | convertToRaid => exact h.update fun g _ hr => ⟨hr.nodup, hr.all⟩
  | convertToLFG => exact h.update fun g _ hr => ⟨hr.nodup, hr.all⟩
  | changeSubGroup sender guid groupNr =>
    exact h.update fun g _ hr => hr.changeSubGroup sender guid groupNr
  | setAssistant guid apply => exact h.update fun g _ hr => ⟨hr.nodup, hr.all⟩
  | login guid =>
    refine h.update fun g _ hr => ?_
    split_ifs
    · exact hr.linkMember guid
    · exact hr
  | logout guid => exact h.update fun g _ hr => hr.delinkMember guid
  | enterWorld guid => exact h
  | leaveWorld guid => exact h
  | startRoll loot lootItemsEmpty mayLoot autoPass =>
    exact h.update fun g hg hr => hr.startRoll (hstart _ _ _ _ rfl g hg)
  | lootRoll player item rollType =>
    exact h.lootRoll fun g hg hr => hr.countRollVote (hvote _ _ _ rfl g hg)
  | endRoll loot =>
    exact h.update fun g _ hr =>
      ⟨hr.nodup, fun roll hroll => hr.all roll (List.mem_of_mem_filter hroll)⟩
  | deleteLoot loot => exact h.update fun g _ hr => hr.invalidateLoot hnone loot

/-- The invariant: the rolls of the group are tallied, and the rolls that ended early had every
vote. -/
structure RollsTallied (s : GroupState) : Prop where
  rolls : ∀ g, s.group = some g → g.RollsTallied
  resolved : ∀ roll ∈ s.resolved, ∀ v ∈ roll.playerVote.values, v ≠ .notEmitedYet

/-- **One event** that meets the condition keeps the rolls tallied. -/
theorem RollsTallied.step {s : GroupState} {op : GroupOp} (h : s.RollsTallied)
    (hok : s.VotesOnce op) : (s.step op).RollsTallied := by
  have hrolls : (s.step op).RollsAre Roll.Tallied := by
    refine RollsAre.step (fun g hg => Group.rollsTallied_iff.mp (h.rolls g hg)) ?_ ?_
      (fun _ guid hr => hr.removeVoter guid)
      fun _ hr => ⟨hr.counter_eq, hr.rolling, hr.valid⟩
    · rintro loot lootItemsEmpty mayLoot autoPass rfl g hg players hnodup rfl
      exact Roll.tallied_start _ loot lootItemsEmpty hnodup (hok g hg)
    · rintro player item rollType rfl g hg roll v hroll hr hv hempty -
      have hfirst := hok g hg
      simp only [Group.FirstVote, hroll] at hfirst
      exact hr.vote hv fun htype => hfirst hempty htype v hv
  refine ⟨fun g hg => Group.rollsTallied_iff.mpr (hrolls g hg), ?_⟩
  cases op with
  | create leader isBG isBF =>
    cases hg : s.group <;> simpa [GroupState.step, hg] using h.resolved
  | lootRoll player item rollType =>
    cases hg : s.group with
    | none => simpa [GroupState.step, hg] using h.resolved
    | some g =>
      intro roll hroll
      simp only [GroupState.step, hg, List.mem_append, Option.mem_toList] at hroll
      rcases hroll with hroll | hroll
      · exact h.resolved roll hroll
      · exact ((h.rolls g hg).voted_of_resolved (hok g hg)) roll hroll
  | _ => exact h.resolved

/-- **The tallies agree**: every roll's counters are the numbers of its votes, no more votes are
counted than players roll, and every roll that ended early had the vote of every player in it. -/
def TalliesAgree (s : GroupState) : Prop :=
  (∀ g, s.group = some g → ∀ roll ∈ g.rolls,
    roll.totalNeed.toNat = roll.playerVote.values.countP (· = .need) ∧
    roll.totalGreed.toNat =
      roll.playerVote.values.countP (fun v => v = .greed || v = .disenchant) ∧
    roll.totalPass.toNat = roll.playerVote.values.countP (· = .pass) ∧
    roll.totalNeed.toNat + roll.totalGreed.toNat + roll.totalPass.toNat ≤
      roll.playerVote.size) ∧
  ∀ roll ∈ s.resolved, ∀ v ∈ roll.playerVote.values, v ≠ .notEmitedYet

/-- **Loot roll tally.** The tallies agree after every run in which nobody votes twice in a
roll. -/
theorem talliesAgree_after (ops : List GroupOp) (h : Admissible step VotesOnce initial ops) :
    (after ops).TalliesAgree := by
  have hinitial : initial.RollsTallied :=
    ⟨fun _ hg => (by cases hg), fun _ hroll => absurd hroll List.not_mem_nil⟩
  have hinv : (after ops).RollsTallied :=
    run_invariant RollsTallied (fun _ _ hs hok => hs.step hok) hinitial h
  refine ⟨fun g hg roll hroll => ?_, hinv.resolved⟩
  have htallied := (hinv.rolls g hg).tallied roll hroll
  have hadd := Roll.countVotes_add roll htallied.valid
  have hle := roll.countVotes_le (· ≠ .notEmitedYet)
  have hneed := htallied.counter_eq .need
  have hgreed := htallied.counter_eq .greed
  have hpass := htallied.counter_eq .pass
  have hsize : (roll.countVotes fun _ => true) = roll.playerVote.size := by
    simp [Roll.countVotes, OrderedMap.values, OrderedMap.size]
  simp only [Roll.counter] at hneed hgreed hpass
  exact ⟨hneed, hgreed, hpass, by omega⟩

/-- Three players roll over two items: one is decided by three votes, a player votes on the
other and leaves. -/
def rollOnce : List GroupOp :=
  [.enterWorld 1, .enterWorld 2, .enterWorld 3, .create 1 false false, .addMember 2, .addMember 3,
    .startRoll 0 false (fun _ => true) (fun _ => false),
    .startRoll 0 false (fun _ => true) (fun guid => guid == 2),
    .lootRoll 1 1 1, .lootRoll 2 1 0, .lootRoll 3 1 2, .lootRoll 3 2 3,
    .removeMember 3 .leave 0 true 0]

theorem talliesAgree_after_rollOnce : (after rollOnce).TalliesAgree :=
  talliesAgree_after rollOnce (by decide)

/-- Three players roll over an item, and one of them votes for need twice. -/
def rollTwice : List GroupOp :=
  [.enterWorld 1, .enterWorld 2, .enterWorld 3, .create 1 false false, .addMember 2, .addMember 3,
    .startRoll 0 false (fun _ => true) (fun _ => false), .lootRoll 1 1 1, .lootRoll 1 1 1]

/-- The second vote is counted beside the first: one vote for need, and a counter of two. -/
theorem not_talliesAgree_after_rollTwice :
    ¬ ∀ ops : List GroupOp, (after ops).TalliesAgree := by
  intro h
  have hneed := ((h rollTwice).1 _ rfl _ (List.mem_singleton.mpr rfl)).1
  revert hneed
  decide

end GroupState

end TeraCore
