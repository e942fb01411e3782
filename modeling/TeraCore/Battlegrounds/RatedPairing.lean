import TeraCore.Battlegrounds.QueueStructure

/-!
# Battlegrounds: the pairing of rated arena teams

A rated match takes two groups that are not invited yet.  The first that matches the rating comes
from the list of either team, or both come from one list, where the second has to be another arena
team.  That is not checked when they come from two lists.

A group passes if its rating is near the rating that is sought, or if it joined before the discard
time.  The discard time and the join times are readings of a clock of 32 bits, and so is the order
of the front groups, one of which gives the rating if none is given.  Less than the discard timer
after the clock started or wrapped, whoever joined since then passes.

## Main results

* `outsider_iff`: which of the groups that pass should not play
* `ratedMatch_right_iff`: when a match is what it should be, by the places of the groups that pass
* `pairsRightly_of_steady`: it is when the clock has run for the discard timer since it wrapped and
  since the groups joined, and no arena team is first in both lists
-/

namespace TeraCore

open Commons OrderedMap

def GroupQueueInfo.playing (info opponent : GroupQueueInfo) (side : Team) (arena : ℕ)
    (now : BitVec 32) : GroupQueueInfo :=
  { info with
    team := side
    isInvitedToBGInstanceGUID := arena
    removeInviteTime := now + inviteAcceptWaitTime
    opponentsTeamRating := opponent.arenaTeamRating
    opponentsMatchmakerRating := opponent.arenaMatchmakerRating }

namespace BattlegroundQueue

/-- The rating is not farther from another than the difference that is allowed. -/
def Within (env : RatedEnv) (rating rating' : BitVec 32) : Prop :=
  rating'.toNat ≤ rating.toNat + env.maxRatingDifference.toNat ∧
    rating.toNat ≤ rating'.toNat + env.maxRatingDifference.toNat

instance (env : RatedEnv) (rating rating' : BitVec 32) : Decidable (Within env rating rating') :=
  inferInstanceAs (Decidable (_ ∧ _))

/-- A group that joined at the real time `joined` waited longer than the discard timer. -/
def Waited (env : RatedEnv) (time joined : ℕ) : Prop :=
  joined + env.ratingDiscardTimer.toNat < time

instance (env : RatedEnv) (time joined : ℕ) : Decidable (Waited env time joined) :=
  inferInstanceAs (Decidable (_ < _))

variable (q : BattlegroundQueue)

/-- The rating that is given, or else that of the front group with the longest wait. -/
def requiredRating (joined : ℕ → ℕ) (bracketId : ℕ) (arenaRating : BitVec 32) : BitVec 32 :=
  if arenaRating ≠ 0 then arenaRating
  else
    match (q.queuedGroups bracketId (bgQueuePremade .alliance)).head?,
      (q.queuedGroups bracketId (bgQueuePremade .horde)).head? with
    | none, none => 0
    | some front1, none => (q.ginfo front1).arenaMatchmakerRating
    | none, some front2 => (q.ginfo front2).arenaMatchmakerRating
    | some front1, some front2 =>
      if joined front1 < joined front2 then (q.ginfo front1).arenaMatchmakerRating
      else (q.ginfo front2).arenaMatchmakerRating

/-- **What a match should be.** -/
structure RightMatch (q q' : BattlegroundQueue) (env : RatedEnv) (bracketId : ℕ)
    (rating : BitVec 32) (time : ℕ) (joined : ℕ → ℕ) (aTeam hTeam arena : ℕ) : Prop where
  two : aTeam ≠ hTeam
  queued : ∀ group ∈ [aTeam, hTeam], ∃ team,
    group ∈ q.queuedGroups bracketId (bgQueuePremade team)
  uninvited : ∀ group ∈ [aTeam, hTeam], (q.ginfo group).isInvitedToBGInstanceGUID = 0
  teams : (q.ginfo aTeam).arenaTeamId ≠ (q.ginfo hTeam).arenaTeamId
  entitled : ∀ group ∈ [aTeam, hTeam],
    Within env rating (q.ginfo group).arenaMatchmakerRating ∨ Waited env time (joined group)
  /-- Each plays on its side, and records the ratings of the other. -/
  alliance : q'.groups.find? aTeam =
    some ((q.ginfo aTeam).playing (q.ginfo hTeam) .alliance arena env.now)
  horde : q'.groups.find? hTeam =
    some ((q.ginfo hTeam).playing (q.ginfo aTeam) .horde arena env.now)
  sides : aTeam ∈ q'.queuedGroups bracketId (bgQueuePremade .alliance) ∧
    hTeam ∈ q'.queuedGroups bracketId (bgQueuePremade .horde)
  others : ∀ group ∉ [aTeam, hTeam], q'.groups.find? group = q.groups.find? group
  order : ∀ bracketId' index,
    (q'.queuedGroups bracketId' index).filter (· ∉ [aTeam, hTeam]) =
      (q.queuedGroups bracketId' index).filter (· ∉ [aTeam, hTeam])
  players : q'.queuedPlayers = q.queuedPlayers

/-- **The readings of the clock.**  The server has run for `time` milliseconds, and a group joined
at the real time `joined`. -/
structure Clocked (q : BattlegroundQueue) (env : RatedEnv) (time : ℕ) (joined : ℕ → ℕ) : Prop where
  now : env.now = BitVec.ofNat 32 time
  joinTime : ∀ group info, q.groups.find? group = some info →
    info.joinTime = BitVec.ofNat 32 (joined group)
  joined_le : ∀ group info, q.groups.find? group = some info → joined group ≤ time

/-! ## The groups that pass -/

variable (env : RatedEnv)

/-- The rating is in the range of another, whose upper end wraps. -/
def Near (rating rating' : BitVec 32) : Prop :=
  rating.toNat ≤ rating'.toNat + env.maxRatingDifference.toNat ∧
    rating'.toNat ≤ (rating.toNat + env.maxRatingDifference.toNat) % 2 ^ 32

instance (env : RatedEnv) (rating rating' : BitVec 32) : Decidable (Near env rating rating') :=
  inferInstanceAs (Decidable (_ ∧ _))

/-- The group is not invited, and its rating is near or its join time before the discard time. -/
def Passes (rating : BitVec 32) (group : ℕ) : Prop :=
  (q.ginfo group).isInvitedToBGInstanceGUID = 0 ∧
    (Near env rating (q.ginfo group).arenaMatchmakerRating ∨
      (q.ginfo group).joinTime < env.now - env.ratingDiscardTimer)

instance (q : BattlegroundQueue) (env : RatedEnv) (rating : BitVec 32) (group : ℕ) :
    Decidable (q.Passes env rating group) :=
  inferInstanceAs (Decidable (_ ∧ _))

/-- The groups of other arena teams. -/
def opponents (group : ℕ) (groups : List ℕ) : List ℕ :=
  groups.filter fun other => (q.ginfo group).arenaTeamId ≠ (q.ginfo other).arenaTeamId

/-- The clock started or wrapped less than the discard timer ago, and the group joined since. -/
def SinceWrap (time joined : ℕ) : Prop :=
  time % 2 ^ 32 < env.ratingDiscardTimer.toNat ∧ time / 2 ^ 32 = joined / 2 ^ 32

/-- The readings of the clock at the join times. -/
def readings (group : ℕ) : ℕ := (q.ginfo group).joinTime.toNat

/-- **A group that should not play**: its rating is not near, and it joined since the clock wrapped,
or did not wait and is near the rating of a front group that by the readings waited longer. -/
def Outsider (bracketId : ℕ) (arenaRating : BitVec 32) (time : ℕ) (joined : ℕ → ℕ) (group : ℕ) :
    Prop :=
  ¬Within env (q.requiredRating joined bracketId arenaRating)
      (q.ginfo group).arenaMatchmakerRating ∧
    (SinceWrap env time (joined group) ∨ ¬Waited env time (joined group) ∧
      Near env (q.requiredRating q.readings bracketId arenaRating)
        (q.ginfo group).arenaMatchmakerRating)

/-- The groups of a list that pass, in the order of the list.  The rating that is sought is given,
or that of the front group that waits the longest by the readings. -/
def passing (bracketId : ℕ) (arenaRating : BitVec 32) (team : Team) : List ℕ :=
  (q.queuedGroups bracketId (bgQueuePremade team)).filter fun group =>
    q.Passes env (q.requiredRating q.readings bracketId arenaRating) group

/-- **When the pairing is right**, by the places of the groups that pass. -/
structure PairsRightly (q : BattlegroundQueue) (env : RatedEnv) (bracketId : ℕ)
    (arenaRating : BitVec 32) (time : ℕ) (joined : ℕ → ℕ) : Prop where
  /-- The first groups of the two lists are of different arena teams. -/
  teams : ∀ aTeam ∈ (q.passing env bracketId arenaRating .alliance).head?,
    ∀ hTeam ∈ (q.passing env bracketId arenaRating .horde).head?,
      (q.ginfo aTeam).arenaTeamId ≠ (q.ginfo hTeam).arenaTeamId
  /-- No outsider is the first of its list, if anybody is there to play against. -/
  first : ∀ team, ∀ group ∈ (q.passing env bracketId arenaRating team).head?,
    q.passing env bracketId arenaRating team.other ≠ [] ∨
        q.opponents group (q.passing env bracketId arenaRating team) ≠ [] →
      ¬q.Outsider env bracketId arenaRating time joined group
  /-- If only one list has groups that pass, no outsider is the first opponent of the first. -/
  second : ∀ team, q.passing env bracketId arenaRating team.other = [] →
    ∀ group ∈ (q.passing env bracketId arenaRating team).head?,
      ∀ opponent ∈ (q.opponents group (q.passing env bracketId arenaRating team)).head?,
        ¬q.Outsider env bracketId arenaRating time joined opponent

variable {q} {env} {time : ℕ} {joined : ℕ → ℕ}
variable {group bracketId : ℕ} {rating arenaRating : BitVec 32}

theorem matchesRating_eq (q : BattlegroundQueue) (env : RatedEnv) (rating : BitVec 32)
    (group : ℕ) : q.matchesRating env rating group = decide (q.Passes env rating group) := by
  have hmin : (if rating ≤ env.maxRatingDifference then 0 else rating - env.maxRatingDifference) ≤
      (q.ginfo group).arenaMatchmakerRating ↔
        rating.toNat ≤
          (q.ginfo group).arenaMatchmakerRating.toNat + env.maxRatingDifference.toNat := by
    split_ifs with hle
    · rw [BitVec.le_def] at hle
      simp only [BitVec.le_def, BitVec.ofNat_eq_ofNat, BitVec.toNat_ofNat]
      omega
    · rw [BitVec.le_def] at hle
      rw [BitVec.le_def, BitVec.toNat_sub_of_le (BitVec.le_def.mpr (by omega))]
      omega
  have hmax : (q.ginfo group).arenaMatchmakerRating ≤ rating + env.maxRatingDifference ↔
      (q.ginfo group).arenaMatchmakerRating.toNat ≤
        (rating.toNat + env.maxRatingDifference.toNat) % 2 ^ 32 := by
    rw [BitVec.le_def, BitVec.toNat_add]
  rw [Bool.eq_iff_iff, decide_eq_true_iff]
  simp only [matchesRating, uninvited, hmin, hmax, Passes, Near, Bool.and_eq_true,
    Bool.or_eq_true, beq_iff_eq, decide_eq_true_eq]

/-- The upper end of the range wraps to less than it. -/
theorem within_of_near {rating' : BitVec 32} (h : Near env rating rating') :
    Within env rating rating' :=
  ⟨h.2.trans (Nat.mod_le _ _), h.1⟩

/-- The rating that is sought is the one of the front group that waits the longest by the
readings. -/
theorem soughtRating_eq {sought : BitVec 32}
    (h : q.soughtRating bracketId arenaRating = some sought) :
    sought = q.requiredRating q.readings bracketId arenaRating := by
  rw [soughtRating] at h
  rw [requiredRating]
  split_ifs at h ⊢ with hzero
  · exact (Option.some.inj h).symm
  · simp only [readings, ← BitVec.lt_def]
    generalize (q.queuedGroups bracketId (bgQueuePremade .alliance)).head? = front1 at h ⊢
    generalize (q.queuedGroups bracketId (bgQueuePremade .horde)).head? = front2 at h ⊢
    cases front1 <;> cases front2
    · cases h
    · exact (Option.some.inj h).symm
    · exact (Option.some.inj h).symm
    · dsimp only at h ⊢
      split_ifs at h ⊢ <;> exact (Option.some.inj h).symm

/-! ## Readings and real times -/

theorem sinceWrap_iff (hclock : Clocked q env time joined) {info : GroupQueueInfo}
    (hinfo : q.groups.find? group = some info) :
    SinceWrap env time (joined group) ↔
      (q.ginfo group).joinTime < env.now - env.ratingDiscardTimer ∧
        ¬Waited env time (joined group) := by
  have hle := hclock.joined_le group info hinfo
  rw [SinceWrap, Waited, ginfo_eq hinfo, hclock.joinTime group info hinfo, hclock.now,
    BitVec.lt_def, BitVec.toNat_sub, BitVec.toNat_ofNat, BitVec.toNat_ofNat]
  omega

/-- **Which of the groups that pass should not play.** -/
theorem outsider_iff (hclock : Clocked q env time joined) {info : GroupQueueInfo}
    (hinfo : q.groups.find? group = some info)
    (hpasses : q.Passes env (q.requiredRating q.readings bracketId arenaRating) group) :
    q.Outsider env bracketId arenaRating time joined group ↔
      ¬(Within env (q.requiredRating joined bracketId arenaRating)
        (q.ginfo group).arenaMatchmakerRating ∨ Waited env time (joined group)) := by
  have hwrap := sinceWrap_iff hclock hinfo
  rw [Outsider, hwrap, not_or]
  refine and_congr_right fun _ => ⟨fun h => h.elim And.right And.left, fun hwaited => ?_⟩
  exact hpasses.2.elim (fun hnear => .inr ⟨hwaited, hnear⟩) fun hearly => .inl ⟨hearly, hwaited⟩

/-! ## The pair -/

/-- In front of the first group that passes a test, none passes a harder one. -/
theorem find?_drop_idxOf {p harder : ℕ → Bool}
    (hp : ∀ group, harder group = true → p group = true) :
    ∀ {groups : List ℕ} {found : ℕ}, groups.find? p = some found →
      (groups.drop (groups.idxOf found)).find? harder = groups.find? harder
  | first :: rest, found, h => by
    by_cases hfirst : p first = true
    · rw [List.find?_cons_of_pos hfirst] at h
      rw [Option.some.inj h, List.idxOf_cons_self, List.drop_zero]
    · rw [List.find?_cons_of_neg hfirst] at h
      have hne : first ≠ found := fun heq => hfirst (heq ▸ List.find?_some h)
      rw [List.idxOf_cons_ne _ hne, List.drop_succ_cons, find?_drop_idxOf hp h,
        List.find?_cons_of_neg fun hpos => hfirst (hp first hpos)]

/-- **The pair that plays**, by the groups that pass. -/
theorem ratedPair_eq (q : BattlegroundQueue) (env : RatedEnv) (bracketId : ℕ)
    (arenaRating : BitVec 32) :
    q.ratedPair env bracketId (q.requiredRating q.readings bracketId arenaRating) =
      match (q.passing env bracketId arenaRating .alliance).head?,
        (q.passing env bracketId arenaRating .horde).head? with
      | some aTeam, some hTeam => some (aTeam, hTeam)
      | some aTeam, none =>
        (q.opponents aTeam (q.passing env bracketId arenaRating .alliance)).head?.map
          fun hTeam => (aTeam, hTeam)
      | none, some aTeam =>
        (q.opponents aTeam (q.passing env bracketId arenaRating .horde)).head?.map
          fun hTeam => (aTeam, hTeam)
      | none, none => none := by
  have hhead : ∀ team, (q.passing env bracketId arenaRating team).head? =
      (q.queuedGroups bracketId (bgQueuePremade team)).find?
        (q.matchesRating env (q.requiredRating q.readings bracketId arenaRating)) := fun team => by
    rw [passing, List.head?_filter, funext (matchesRating_eq q env _)]
  have hopponent : ∀ team, ∀ found ∈ (q.passing env bracketId arenaRating team).head?,
      q.sameFactionOpponent env (q.requiredRating q.readings bracketId arenaRating)
        (q.queuedGroups bracketId (bgQueuePremade team)) found =
      (q.opponents found (q.passing env bracketId arenaRating team)).head? := by
    intro team found hfound
    rw [Option.mem_def, hhead] at hfound
    rw [sameFactionOpponent, find?_drop_idxOf (fun _ h => (Bool.and_eq_true _ _ ▸ h).1) hfound,
      opponents, List.head?_filter, passing, List.find?_filter]
    simp only [matchesRating_eq, Bool.decide_and, Bool.decide_eq_true]
  rw [ratedPair]
  simp only [← hhead]
  split
  · next ha hh => simp only [ha, hh]
  · next ha hh => simp only [hopponent _ _ ha, ha, hh]
  · next ha hh => simp only [hopponent _ _ hh, ha, hh]
  · next ha hh => simp only [ha, hh]

theorem arenaTeamId_ne_of_opponents {opponent : ℕ} {groups : List ℕ}
    (h : (q.opponents group groups).head? = some opponent) :
    (q.ginfo group).arenaTeamId ≠ (q.ginfo opponent).arenaTeamId :=
  of_decide_eq_true (List.mem_filter.mp (List.mem_of_head? h)).2

/-- If only one list has groups that pass, the first of it plays against its first opponent. -/
theorem ratedPair_of_alone {opponent : ℕ} {team : Team}
    (halone : q.passing env bracketId arenaRating team.other = [])
    (hgroup : (q.passing env bracketId arenaRating team).head? = some group)
    (hopponent : (q.opponents group (q.passing env bracketId arenaRating team)).head? =
      some opponent) :
    q.ratedPair env bracketId (q.requiredRating q.readings bracketId arenaRating) =
      some (group, opponent) := by
  rw [ratedPair_eq]
  cases team <;> simp only [Team.other] at halone <;>
    simp only [halone, hgroup, hopponent, List.head?_nil, Option.map_some]

/-- The first of a list plays, if anybody is there to play against. -/
theorem ratedPair_of_first {team : Team}
    (hgroup : (q.passing env bracketId arenaRating team).head? = some group)
    (hsomebody : q.passing env bracketId arenaRating team.other ≠ [] ∨
      q.opponents group (q.passing env bracketId arenaRating team) ≠ []) :
    ∃ aTeam hTeam, q.ratedPair env bracketId
        (q.requiredRating q.readings bracketId arenaRating) = some (aTeam, hTeam) ∧
      group ∈ [aTeam, hTeam] := by
  cases hother : (q.passing env bracketId arenaRating team.other).head? with
  | none =>
    have halone := List.head?_eq_none_iff.mp hother
    obtain ⟨opponent, rest, heq⟩ :=
      List.exists_cons_of_ne_nil (hsomebody.resolve_left (not_not.mpr halone))
    exact ⟨group, opponent, ratedPair_of_alone halone hgroup (by rw [heq, List.head?_cons]),
      List.mem_cons_self⟩
  | some other =>
    rw [ratedPair_eq]
    cases team with
    | alliance =>
      simp only [Team.other] at hother
      exact ⟨group, other, by rw [hgroup, hother], List.mem_cons_self⟩
    | horde =>
      simp only [Team.other] at hother
      exact ⟨other, group, by rw [hgroup, hother], List.mem_cons_of_mem _ List.mem_cons_self⟩

theorem pairsRightly_iff :
    q.PairsRightly env bracketId arenaRating time joined ↔
      ∀ aTeam hTeam, q.ratedPair env bracketId
          (q.requiredRating q.readings bracketId arenaRating) = some (aTeam, hTeam) →
        (q.ginfo aTeam).arenaTeamId ≠ (q.ginfo hTeam).arenaTeamId ∧
          ∀ group ∈ [aTeam, hTeam],
            ¬q.Outsider env bracketId arenaRating time joined group := by
  constructor
  · intro hright aTeam hTeam hpair
    -- The pair is of one list: its first, and the first opponent of it.
    have halone : ∀ (team : Team) {group opponent : ℕ},
        (q.passing env bracketId arenaRating team).head? = some group →
        (q.passing env bracketId arenaRating team.other).head? = none →
        (q.opponents group (q.passing env bracketId arenaRating team)).head? = some opponent →
          (q.ginfo group).arenaTeamId ≠ (q.ginfo opponent).arenaTeamId ∧
            ∀ other ∈ [group, opponent],
              ¬q.Outsider env bracketId arenaRating time joined other := by
      intro team group opponent hgroup hnone hopponent
      refine ⟨arenaTeamId_ne_of_opponents hopponent, fun other hother => ?_⟩
      rcases List.mem_pair.mp hother with rfl | rfl
      · exact hright.first team other hgroup
          (.inr (List.ne_nil_of_mem (List.mem_of_head? hopponent)))
      · exact hright.second team (List.head?_eq_none_iff.mp hnone) group hgroup other hopponent
    rw [ratedPair_eq] at hpair
    split at hpair
    · next a h ha hh =>
      obtain ⟨rfl, rfl⟩ := Prod.mk.inj (Option.some.inj hpair)
      refine ⟨hright.teams a ha h hh, fun group hgroup => ?_⟩
      rcases List.mem_pair.mp hgroup with rfl | rfl
      · exact hright.first .alliance group ha
          (.inl (List.ne_nil_of_mem (List.mem_of_head? hh)))
      · exact hright.first .horde group hh (.inl (List.ne_nil_of_mem (List.mem_of_head? ha)))
    · next a ha hh =>
      obtain ⟨opponent, hopponent, heq⟩ := Option.map_eq_some_iff.mp hpair
      obtain ⟨rfl, rfl⟩ := Prod.mk.inj heq
      exact halone .alliance ha hh hopponent
    · next a ha hh =>
      obtain ⟨opponent, hopponent, heq⟩ := Option.map_eq_some_iff.mp hpair
      obtain ⟨rfl, rfl⟩ := Prod.mk.inj heq
      exact halone .horde hh ha hopponent
    · cases hpair
  · intro hpairs
    refine ⟨fun a ha h hh => ?_, fun team group hgroup hsomebody => ?_,
      fun team halone group hgroup opponent hopponent => ?_⟩
    · rw [Option.mem_def] at ha hh
      exact (hpairs a h (by rw [ratedPair_eq, ha, hh])).1
    · obtain ⟨aTeam, hTeam, hpair, hmem⟩ := ratedPair_of_first hgroup hsomebody
      exact (hpairs aTeam hTeam hpair).2 group hmem
    · exact (hpairs group opponent (ratedPair_of_alone halone hgroup hopponent)).2 opponent
        (List.mem_cons_of_mem _ List.mem_cons_self)

theorem passes_of_ratedPair {aTeam hTeam : ℕ}
    (hpair : q.ratedPair env bracketId (q.requiredRating q.readings bracketId arenaRating) =
      some (aTeam, hTeam)) :
    ∀ group ∈ [aTeam, hTeam],
      q.Passes env (q.requiredRating q.readings bracketId arenaRating) group := by
  have hpasses : ∀ {team : Team} {group : ℕ},
      group ∈ q.passing env bracketId arenaRating team →
        q.Passes env (q.requiredRating q.readings bracketId arenaRating) group :=
    fun hmem => of_decide_eq_true (List.mem_filter.mp hmem).2
  have hopponent : ∀ {team : Team} {group opponent : ℕ},
      (q.opponents group (q.passing env bracketId arenaRating team)).head? = some opponent →
        q.Passes env (q.requiredRating q.readings bracketId arenaRating) opponent :=
    fun h => hpasses (List.mem_of_mem_filter (List.mem_of_head? h))
  intro group hgroup
  rw [ratedPair_eq] at hpair
  split at hpair
  · next ha hh =>
    cases hpair
    rcases List.mem_pair.mp hgroup with rfl | rfl
    · exact hpasses (List.mem_of_head? ha)
    · exact hpasses (List.mem_of_head? hh)
  · next ha _ =>
    obtain ⟨opponent, hfound, heq⟩ := Option.map_eq_some_iff.mp hpair
    obtain ⟨rfl, rfl⟩ := Prod.mk.inj heq
    rcases List.mem_pair.mp hgroup with rfl | rfl
    · exact hpasses (List.mem_of_head? ha)
    · exact hopponent hfound
  · next _ hh =>
    obtain ⟨opponent, hfound, heq⟩ := Option.map_eq_some_iff.mp hpair
    obtain ⟨rfl, rfl⟩ := Prod.mk.inj heq
    rcases List.mem_pair.mp hgroup with rfl | rfl
    · exact hpasses (List.mem_of_head? hh)
    · exact hopponent hfound
  · cases hpair

/-! ## The effect of a match -/

theorem recordOpponents_queuedGroups (aTeam hTeam : ℕ) :
    (q.recordOpponents aTeam hTeam).queuedGroups = q.queuedGroups := rfl

theorem filter_erase_of_not {p : ℕ → Bool} (hp : p group = false) :
    ∀ groups : List ℕ, (groups.erase group).filter p = groups.filter p
  | [] => rfl
  | first :: rest => by
    by_cases heq : first = group
    · rw [heq, List.erase_cons_head, List.filter_cons_of_neg (by simp [hp])]
    · rw [List.erase_cons_tail (by simp [heq]), List.filter_cons, List.filter_cons,
        filter_erase_of_not hp rest]

theorem moveToSide_order (p : ℕ → Bool) (hp : p group = false) (bracketId : ℕ)
    (side : Team) (bracketId' index : ℕ) :
    ((q.moveToSide bracketId side group).queuedGroups bracketId' index).filter p =
      (q.queuedGroups bracketId' index).filter p := by
  have hcons : ∀ groups : List ℕ, (group :: groups).filter p = groups.filter p :=
    fun groups => List.filter_cons_of_neg (by simp [hp])
  rw [moveToSide]
  split_ifs
  · simp only [modifyList]
    split_ifs
    · rw [filter_erase_of_not hp, hcons]
    · rw [filter_erase_of_not hp]
    · rw [hcons]
    · rfl
  · rfl

theorem mem_moveToSide_self (h : q.Structured) {team : Team}
    (hmem : group ∈ q.queuedGroups bracketId (bgQueuePremade team)) (side : Team) :
    group ∈ (q.moveToSide bracketId side group).queuedGroups bracketId (bgQueuePremade side) := by
  obtain ⟨info, hinfo, -, hteam, -⟩ := h.at_of_mem hmem
  have hsame : team = info.team := ofTeam_unique (.inl rfl) hteam
  rw [moveToSide, ginfo_eq hinfo]
  split_ifs with hside
  · have hne : bgQueuePremade side ≠ bgQueuePremade side.other := by cases side <;> decide
    simp only [modifyList]
    rw [if_neg fun hboth => hne hboth.2, if_pos ⟨trivial, trivial⟩]
    exact List.mem_cons_self
  · rw [← not_not.mp hside, ← hsame]
    exact hmem

theorem invite_recorded {info : GroupQueueInfo} (h : info.isInvitedToBGInstanceGUID = 0)
    (opponent : GroupQueueInfo) (now : BitVec 32) (instanceId : ℕ) (side : Team) :
    ({ info with
      opponentsTeamRating := opponent.arenaTeamRating
      opponentsMatchmakerRating := opponent.arenaMatchmakerRating } : GroupQueueInfo).invite now
        instanceId (some side) = info.playing opponent side instanceId now :=
  if_pos h

/-- **What a match does**: everything but what the code does not see to. -/
theorem rightMatch_of (h : q.Structured) {arenaRating : BitVec 32} {aTeam hTeam arena : ℕ}
    (hstart : q.ratedStart env bracketId arenaRating = some (aTeam, hTeam, arena))
    (hids : (q.ginfo aTeam).arenaTeamId ≠ (q.ginfo hTeam).arenaTeamId)
    (hentitled : ∀ group ∈ [aTeam, hTeam],
      Within env rating (q.ginfo group).arenaMatchmakerRating ∨ Waited env time (joined group)) :
    RightMatch q (q.ratedMatch env bracketId arenaRating) env bracketId rating time joined aTeam
      hTeam arena := by
  obtain ⟨sought, hsought, hpair, -⟩ := ratedStart_spec hstart
  have hpasses := passes_of_ratedPair (soughtRating_eq hsought ▸ hpair)
  obtain ⟨⟨aSide, ha⟩, ⟨hSide, hh⟩, hne⟩ := ratedPair_mem h hpair
  obtain ⟨a, hainfo, -⟩ := h.at_of_mem ha
  obtain ⟨b, hbinfo, -⟩ := h.at_of_mem hh
  have hastill : (q.ginfo aTeam).isInvitedToBGInstanceGUID = 0 :=
    (hpasses aTeam List.mem_cons_self).1
  have hbstill : (q.ginfo hTeam).isInvitedToBGInstanceGUID = 0 :=
    (hpasses hTeam (List.mem_cons_of_mem _ List.mem_cons_self)).1
  have hrecorded := h.recordOpponents hainfo hbinfo hne
  let moved := ((q.recordOpponents aTeam hTeam).moveToSide bracketId .alliance aTeam).moveToSide
    bracketId .horde hTeam
  have hresult : q.ratedMatch env bracketId arenaRating =
      (moved.inviteGroupToBG env.now aTeam arena (some .alliance)).inviteGroupToBG env.now hTeam
        arena (some .horde) := by
    rw [ratedMatch, hstart]
  have hgroups : moved.groups = (q.recordOpponents aTeam hTeam).groups :=
    (moveToSide_groups _ _ _).trans (moveToSide_groups _ _ _)
  have hamoved : moved.ginfo aTeam = { q.ginfo aTeam with
      opponentsTeamRating := (q.ginfo hTeam).arenaTeamRating
      opponentsMatchmakerRating := (q.ginfo hTeam).arenaMatchmakerRating } := by
    rw [ginfo, hgroups]
    exact (get_set_of_ne _ _ hne).trans (get_set_self _ _ _)
  have hbmoved : (moved.inviteGroupToBG env.now aTeam arena (some .alliance)).ginfo hTeam =
      { q.ginfo hTeam with
        opponentsTeamRating := (q.ginfo aTeam).arenaTeamRating
        opponentsMatchmakerRating := (q.ginfo aTeam).arenaMatchmakerRating } := by
    refine (get_set_of_ne _ _ hne.symm).trans ?_
    rw [hgroups]
    exact get_set_self _ _ _
  let out : ℕ → Bool := fun group => decide (group ∉ [aTeam, hTeam])
  have hout : ∀ group ∈ [aTeam, hTeam], out group = false :=
    fun group hgroup => decide_eq_false (not_not.mpr hgroup)
  rw [hresult]
  refine ⟨hne, ?_, ?_, hids, hentitled, ?_, ?_, ⟨?_, ?_⟩, fun group hgroup => ?_,
    fun bracketId' index => ?_, ?_⟩
  · intro group hgroup
    rcases List.mem_pair.mp hgroup with rfl | rfl
    · exact ⟨aSide, ha⟩
    · exact ⟨hSide, hh⟩
  · intro group hgroup
    rcases List.mem_pair.mp hgroup with rfl | rfl
    · exact hastill
    · exact hbstill
  · refine (find?_set_of_ne _ _ hne).trans ((find?_set_self _ _ _).trans ?_)
    rw [hamoved, invite_recorded hastill]
  · refine (find?_set_self _ _ _).trans ?_
    rw [hbmoved, invite_recorded hbstill]
  · exact mem_moveToSide hne (mem_moveToSide_self hrecorded ha .alliance)
  · -- The second group moves as it would before the first is moved.
    have hthere : hTeam ∈ ((q.recordOpponents aTeam hTeam).moveToSide bracketId .alliance
        aTeam).queuedGroups bracketId (bgQueuePremade hSide) := mem_moveToSide hne.symm hh
    have hjoined :=
      mem_moveToSide_self (hrecorded.joinSide ha .alliance env.now arena) hthere .horde
    rw [← inviteGroupToBG_moveToSide hne.symm] at hjoined
    exact hjoined
  · have hnot := not_or.mp (fun hpair => hgroup (List.mem_pair.mpr hpair))
    refine (find?_set_of_ne _ _ hnot.2).trans
      ((find?_set_of_ne _ _ hnot.1).trans ?_)
    rw [hgroups]
    exact (find?_set_of_ne _ _ hnot.2).trans (find?_set_of_ne _ _ hnot.1)
  · rw [inviteGroupToBG_queuedGroups, inviteGroupToBG_queuedGroups, moveToSide_order out
      (hout hTeam (List.mem_cons_of_mem _ List.mem_cons_self)), moveToSide_order out
      (hout aTeam List.mem_cons_self), recordOpponents_queuedGroups]
  · rw [inviteGroupToBG_queuedPlayers, inviteGroupToBG_queuedPlayers, moveToSide_queuedPlayers,
      moveToSide_queuedPlayers]
    rfl

/-! ## When a match is right -/

theorem exists_soughtRating {team : Team}
    (hmem : group ∈ q.queuedGroups bracketId (bgQueuePremade team)) (arenaRating : BitVec 32) :
    ∃ sought, q.soughtRating bracketId arenaRating = some sought := by
  rw [soughtRating]
  split_ifs
  · exact ⟨_, rfl⟩
  · split
    · next ha hh =>
      rw [List.head?_eq_none_iff] at ha hh
      cases team
      · exact absurd (ha ▸ hmem) List.not_mem_nil
      · exact absurd (hh ▸ hmem) List.not_mem_nil
    · exact ⟨_, rfl⟩
    · exact ⟨_, rfl⟩
    · split_ifs <;> exact ⟨_, rfl⟩

/-- **A match is what it should be exactly when** no arena is created, or the first groups that pass
are of different arena teams and no outsider stands where it is taken. -/
theorem ratedMatch_right_iff (h : q.Structured) (hclock : Clocked q env time joined)
    (bracketId : ℕ) (arenaRating : BitVec 32) :
    (∀ aTeam hTeam arena,
      q.ratedStart env bracketId arenaRating = some (aTeam, hTeam, arena) →
        RightMatch q (q.ratedMatch env bracketId arenaRating) env bracketId
          (q.requiredRating joined bracketId arenaRating) time joined aTeam hTeam arena) ↔
    (env.newArena ≠ none → q.PairsRightly env bracketId arenaRating time joined) := by
  have hinMemory : ∀ {sought : BitVec 32} {aTeam hTeam : ℕ},
      q.ratedPair env bracketId sought = some (aTeam, hTeam) → ∀ group ∈ [aTeam, hTeam],
        ∃ info, q.groups.find? group = some info := by
    intro sought aTeam hTeam hpair group hgroup
    obtain ⟨⟨aSide, ha⟩, ⟨hSide, hh⟩, -⟩ := ratedPair_mem h hpair
    rcases List.mem_pair.mp hgroup with rfl | rfl
    · exact h.listed _ _ _ ha
    · exact h.listed _ _ _ hh
  rw [pairsRightly_iff]
  constructor
  · intro hright harena aTeam hTeam hpair
    obtain ⟨arena, harena⟩ := Option.ne_none_iff_exists'.mp harena
    obtain ⟨⟨aSide, ha⟩, -, -⟩ := ratedPair_mem h hpair
    obtain ⟨sought, hsought⟩ := exists_soughtRating ha arenaRating
    have hstart : q.ratedStart env bracketId arenaRating = some (aTeam, hTeam, arena) := by
      rw [ratedStart, hsought, Option.bind_some, soughtRating_eq hsought, hpair, Option.bind_some,
        harena, Option.map_some]
    have hmatch := hright aTeam hTeam arena hstart
    refine ⟨hmatch.teams, fun group hgroup houtsider => ?_⟩
    obtain ⟨info, hinfo⟩ := hinMemory hpair group hgroup
    exact (outsider_iff hclock hinfo (passes_of_ratedPair hpair group hgroup)).mp houtsider
      (hmatch.entitled group hgroup)
  · intro hpairs aTeam hTeam arena hstart
    obtain ⟨sought, hsought, hpair, harena⟩ := ratedStart_spec hstart
    obtain rfl := soughtRating_eq hsought
    obtain ⟨hteams, hinsiders⟩ :=
      hpairs (Option.ne_none_iff_exists'.mpr ⟨arena, harena⟩) aTeam hTeam hpair
    refine rightMatch_of h hstart hteams fun group hgroup => ?_
    obtain ⟨info, hinfo⟩ := hinMemory hpair group hgroup
    by_contra hnot
    exact hinsiders group hgroup
      ((outsider_iff hclock hinfo (passes_of_ratedPair hpair group hgroup)).mpr hnot)

/-- The readings give the rating of the group that really waits the longest, unless the clock
wrapped between two front groups. -/
theorem requiredRating_readings (h : q.Structured) (hclock : Clocked q env time joined)
    (hround : arenaRating ≠ 0 ∨ ∀ group info, q.groups.find? group = some info →
      joined group / 2 ^ 32 = time / 2 ^ 32) :
    q.requiredRating q.readings bracketId arenaRating =
      q.requiredRating joined bracketId arenaRating := by
  rw [requiredRating, requiredRating]
  split_ifs with hzero
  · rfl
  · have hround := hround.resolve_left hzero
    have hreading : ∀ {team : Team} {front : ℕ},
        (q.queuedGroups bracketId (bgQueuePremade team)).head? = some front →
          q.readings front = joined front % 2 ^ 32 ∧ joined front / 2 ^ 32 = time / 2 ^ 32 := by
      intro team front hfront
      obtain ⟨info, hinfo⟩ := h.listed _ _ _ (List.mem_of_head? hfront)
      rw [readings, ginfo_eq hinfo, hclock.joinTime front info hinfo, BitVec.toNat_ofNat]
      exact ⟨rfl, hround front info hinfo⟩
    split
    · rfl
    · rfl
    · rfl
    · next front1 front2 h1 h2 =>
      obtain ⟨hread1, hround1⟩ := hreading h1
      obtain ⟨hread2, hround2⟩ := hreading h2
      refine if_congr ?_ rfl rfl
      omega

theorem pairsRightly_of_steady (h : q.Structured) (hclock : Clocked q env time joined)
    (hsteady : env.ratingDiscardTimer.toNat ≤ time % 2 ^ 32)
    (hround : arenaRating ≠ 0 ∨ ∀ group info, q.groups.find? group = some info →
      joined group / 2 ^ 32 = time / 2 ^ 32)
    (hteams : ∀ aTeam ∈ (q.passing env bracketId arenaRating .alliance).head?,
      ∀ hTeam ∈ (q.passing env bracketId arenaRating .horde).head?,
        (q.ginfo aTeam).arenaTeamId ≠ (q.ginfo hTeam).arenaTeamId) :
    q.PairsRightly env bracketId arenaRating time joined := by
  have hnone : ∀ group, ¬q.Outsider env bracketId arenaRating time joined group := by
    rintro group ⟨hfar, hwrap | ⟨-, hnear⟩⟩
    · exact hsteady.not_gt hwrap.1
    · exact hfar (within_of_near (requiredRating_readings h hclock hround ▸ hnear))
  exact ⟨hteams, fun _ group _ _ => hnone group, fun _ _ _ _ opponent _ => hnone opponent⟩

/-! ## Two teams -/

/-- An alliance team and a horde team, of the ratings 1500 and 3000, of which the second joined
after half a second. -/
def twoTeams : BattlegroundQueue :=
  (start.addGroup 0 ⟨1, .alliance, none, 6, 0, 2, true, false, 1500, 1500, 1⟩).addGroup 500
    ⟨2, .horde, none, 6, 0, 2, true, false, 3000, 3000, 2⟩

/-- The server has run for a second, and ratings are not to count after ten minutes. -/
def firstSecond : RatedEnv := ⟨1000, 150, 600000, some 7⟩

theorem structured_twoTeams : twoTeams.Structured :=
  (structured_start.addGroup 0 (by decide +kernel)).addGroup 500 (by decide +kernel)

/-- The same server, when it has run for more than the discard timer. -/
def eleventhMinute : RatedEnv := { firstSecond with now := 700000 }

theorem clocked_twoTeams {env : RatedEnv} {time : ℕ} (hnow : env.now = BitVec.ofNat 32 time)
    (htime : 500 ≤ time) : Clocked twoTeams env time (fun group => 500 * group) := by
  have hentries : ∀ e ∈ twoTeams.groups.entries, e.2.joinTime = BitVec.ofNat 32 (500 * e.1) ∧
      500 * e.1 ≤ 500 := by
    decide +kernel
  exact ⟨hnow, fun group info hinfo => (hentries _ (mem_entries.mpr hinfo)).1,
    fun group info hinfo => (hentries _ (mem_entries.mpr hinfo)).2.trans htime⟩

/-- After eleven minutes both teams have waited, and play each other whatever their ratings are. -/
theorem ratedMatch_right_iff_twoTeams :
    RightMatch twoTeams (twoTeams.ratedMatch eleventhMinute 0 3000) eleventhMinute 0
      (twoTeams.requiredRating (fun group => 500 * group) 0 3000) 700000
      (fun group => 500 * group) 0 1 7 :=
  (ratedMatch_right_iff structured_twoTeams (clocked_twoTeams rfl (by decide)) 0 3000).mpr
    (fun _ => pairsRightly_of_steady structured_twoTeams (clocked_twoTeams rfl (by decide))
      (by decide) (.inl (by decide)) (by decide +kernel)) 0 1 7 (by decide +kernel)

/-- In the first second every rating is discarded: the teams are paired, and the first of them is
far from the rating and did not wait. -/
theorem not_right_twoTeams :
    twoTeams.Structured ∧ Clocked twoTeams firstSecond 1000 (fun group => 500 * group) ∧
      twoTeams.ratedStart firstSecond 0 3000 = some (0, 1, 7) ∧
      ¬RightMatch twoTeams (twoTeams.ratedMatch firstSecond 0 3000) firstSecond 0
        (twoTeams.requiredRating (fun group => 500 * group) 0 3000) 1000
        (fun group => 500 * group) 0 1 7 := by
  refine ⟨structured_twoTeams, clocked_twoTeams rfl (by decide), by decide +kernel,
    fun hright => ?_⟩
  have hentitled := hright.entitled 0 List.mem_cons_self
  revert hentitled
  decide +kernel

end BattlegroundQueue

end TeraCore
