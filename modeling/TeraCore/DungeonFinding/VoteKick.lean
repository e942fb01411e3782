import TeraCore.Commons.Ballot
import TeraCore.DungeonFinding.LFGMgr
import TeraCore.DungeonFinding.Soundness

/-!
# Votes to kick a player

A vote to kick a player of a dungeon group is a ballot of the group's members.  Who started it has
agreed already, and the victim has refused.  Three players who agree have the victim kicked, and
three who do not end the vote without a kick.

A player's answer is looked up with `operator[]`, which enters a player without a vote into the
ballot: with the value zero, and that is a refusal.  So a member who has joined since the vote began
and clicks on it counts as one of the three who do not agree.

## Main results

* `LFGMgr.updateBoot_of_open`: what an answer does while the vote is on
* `LFGMgr.isOut_removeMember`: who is kicked is out of the group
* `VoteRun.fair_run`: every run of answers of recorded players is fair
-/

namespace TeraCore

open Commons OrderedMap

def lfgGroupKickVotesNeeded : ℕ := 3

def lfgTimeBoot : ℕ := 120

/-- `LfgAnswer(accept)` -/
def LfgAnswer.ofBool (accept : Bool) : LfgAnswer := if accept then .agree else .deny

namespace LFGMgr

/-- The votes a boot opens with, over those that are there. -/
def bootVotes (votes : OrderedMap Guid LfgAnswer) (players : List Guid) (kicker victim : Guid) :
    OrderedMap Guid LfgAnswer :=
  let votes := players.foldl (fun votes guid => votes.set guid .pending) votes
  -- Victim auto vote NO, kicker auto vote YES
  (votes.set victim .deny).set kicker .agree

def initBoot (now : ℕ) (gguid kicker victim : Guid) (s : LFGMgr) : LFGMgr :=
  let s := s.setState gguid .boot
  let players := (s.getPlayers gguid).elems
  let boot := s.boots.get gguid
  let boot : LfgPlayerBoot :=
    { cancelTime := now + lfgTimeBoot, inProgress := true, victim := victim
      votes := bootVotes boot.votes players kicker victim }
  let s := players.foldl (fun s guid => s.setState guid .boot) s
  { s with boots := s.boots.set gguid boot }

/-- The votes that are given, and those that agree: two bytes. -/
def countBoot (votes : OrderedMap Guid LfgAnswer) : ℕ × ℕ :=
  (votes.values.countP (· ≠ .pending) % 2 ^ 8, votes.values.countP (· = .agree) % 2 ^ 8)

/-- The end of a vote in `LFGMgr::UpdateBoot`. -/
def endBoot (env : MgrEnv) (gguid : Guid) (boot : LfgPlayerBoot) (agreeNum : ℕ) (s : LFGMgr) :
    LFGMgr :=
  let s := boot.votes.keys.foldl
    (fun s pguid => if pguid ≠ boot.victim then s.setState pguid .dungeon else s) s
  let s := s.setState gguid .dungeon
  let s :=
    if agreeNum = lfgGroupKickVotesNeeded then
      -- Vote passed - Kick player
      (s.removeMember env gguid boot.victim).updateGroup gguid (·.decreaseKicksLeft)
    else s
  { s with boots := s.boots.erase gguid }

/-- **`LFGMgr::UpdateBoot`**, for a group that exists. -/
def updateBoot (env : MgrEnv) (guid : Guid) (accept : Bool) (s : LFGMgr) : LFGMgr :=
  let gguid := s.getGroup guid
  if gguid = 0 then s
  else
    match s.boots.find? gguid with
    | none => s
    | some boot =>
      -- `boot.votes[guid]` enters a player who has no vote, with the value zero
      let votes := boot.votes.insert guid .deny
      -- Cheat check: Player can't vote twice
      if votes.find? guid ≠ some .pending then
        { s with boots := s.boots.set gguid { boot with votes := votes } }
      else
        let boot := { boot with votes := votes.set guid (.ofBool accept) }
        let votesNum := (countBoot boot.votes).1
        let agreeNum := (countBoot boot.votes).2
        -- if we don't have enough votes (agree or deny) do nothing
        if agreeNum < lfgGroupKickVotesNeeded ∧ votesNum - agreeNum < lfgGroupKickVotesNeeded then
          { s with boots := s.boots.set gguid boot }
        else s.endBoot env gguid { boot with inProgress := false } agreeNum

/-- A player is out of a group: neither record has the player in it. -/
def IsOut (s : LFGMgr) (gguid guid : Guid) : Prop :=
  s.getGroup guid = 0 ∧ guid ∉ s.getPlayers gguid

/-- Everybody is in the same group. -/
structure SameGroups (s s' : LFGMgr) : Prop where
  group : ∀ guid, s'.getGroup guid = s.getGroup guid
  members : ∀ gguid, s'.getPlayers gguid = s.getPlayers gguid

end LFGMgr

/-! ## Runs -/

/-- A vote that is on or over: the dungeon finder, and the answers that its players have given while
it was on. -/
structure VoteRun where
  mgr : LFGMgr
  calls : List (Guid × Bool) := []

inductive VoteOp where
  | updateBoot (env : MgrEnv) (guid : Guid) (accept : Bool)
  | joins (guid gguid : Guid)
  | leaves (guid gguid : Guid)

namespace VoteRun

/-- **One event.**  Answers of players of other groups are not about this vote. -/
def step (gguid : Guid) (v : VoteRun) : VoteOp → VoteRun
  | .updateBoot env guid accept =>
    if v.mgr.getGroup guid = gguid then
      { mgr := v.mgr.updateBoot env guid accept
        calls := if (v.mgr.boots.find? gguid).isSome then v.calls ++ [(guid, accept)] else v.calls }
    else v
  | .joins guid gguid' =>
    { v with mgr := (v.mgr.setGroup guid gguid').addPlayerToGroup gguid' guid }
  | .leaves guid gguid' =>
    { v with mgr := (v.mgr.setGroup guid 0).removePlayerFromGroup gguid' guid }

/-- A vote that has just begun. -/
def start (now : ℕ) (gguid kicker victim : Guid) (s : LFGMgr) : VoteRun where
  mgr := s.initBoot now gguid kicker victim

variable (opening : OrderedMap Guid LfgAnswer)

/-- The answers of the recorded players: the first ones of those who had to answer. -/
def answers (v : VoteRun) : OrderedMap Guid LfgAnswer :=
  Ballot.answers .pending .ofBool opening v.calls

/-- The number of recorded players with an answer. -/
def number (v : VoteRun) (a : LfgAnswer) : ℕ :=
  Ballot.count (v.answers opening) a

/-- **The vote is fair**: while it is on the ballot has the recorded players' first answers and
no others; and it is over exactly when three of them agree, or three of them do not. -/
structure Fair (opening : OrderedMap Guid LfgAnswer) (gguid : Guid) (v : VoteRun) : Prop where
  votes : ∀ boot, v.mgr.boots.find? gguid = some boot → boot.votes = v.answers opening
  over_iff : v.mgr.boots.find? gguid = none ↔
    v.number opening .agree = lfgGroupKickVotesNeeded ∨
      v.number opening .deny = lfgGroupKickVotesNeeded
  one_end : v.number opening .agree = lfgGroupKickVotesNeeded →
    v.number opening .deny < lfgGroupKickVotesNeeded

/-- The third recorded player agrees. -/
def Passes (v v' : VoteRun) : Prop :=
  v.number opening .agree < lfgGroupKickVotesNeeded ∧
    v'.number opening .agree = lfgGroupKickVotesNeeded

/-- **An answer is fair**: with the third recorded player who agrees the victim is out of the group,
and any other answer leaves everybody where they are. -/
structure FairAnswer (opening : OrderedMap Guid LfgAnswer) (gguid victim : Guid) (v v' : VoteRun) :
    Prop where
  kicked : Passes opening v v' → v'.mgr.IsOut gguid victim
  kept : ¬Passes opening v v' → v.mgr.SameGroups v'.mgr

/-- **The condition on an answer**: while the vote is on, it comes from a player who was recorded
when it began. -/
def Recorded (gguid : Guid) (v : VoteRun) : VoteOp → Prop
  | .updateBoot _ guid _ => v.mgr.getGroup guid = gguid → (v.mgr.boots.find? gguid).isSome = true →
      opening.contains guid = true
  | .joins _ _ | .leaves _ _ => True

instance (opening : OrderedMap Guid LfgAnswer) (gguid : Guid) (v : VoteRun) :
    (op : VoteOp) → Decidable (v.Recorded opening gguid op)
  | .updateBoot _ guid _ => inferInstanceAs (Decidable (v.mgr.getGroup guid = gguid →
      (v.mgr.boots.find? gguid).isSome = true → opening.contains guid = true))
  | .joins _ _ => instDecidableTrue
  | .leaves _ _ => instDecidableTrue

end VoteRun

/-! ## One answer -/

theorem LfgAnswer.ofBool_ne_pending (accept : Bool) : LfgAnswer.ofBool accept ≠ .pending := by
  cases accept <;> decide

theorem countP_ne_pending (votes : OrderedMap Guid LfgAnswer) :
    votes.values.countP (· ≠ .pending) =
      Ballot.count votes .agree + Ballot.count votes .deny := by
  simp only [Ballot.count]
  induction votes.values with
  | nil => rfl
  | cons a as ih =>
    cases a <;> simp_all <;> omega

namespace LFGMgr

variable {env : MgrEnv} {guid : Guid} {accept : Bool} {s : LFGMgr}

theorem updateBoot_of_none (h : s.boots.find? (s.getGroup guid) = none) :
    s.updateBoot env guid accept = s := by
  simp [updateBoot, h]

theorem updateBoot_of_answered {boot : LfgPlayerBoot} (hgroup : s.getGroup guid ≠ 0)
    (h : s.boots.find? (s.getGroup guid) = some boot) {a : LfgAnswer}
    (ha : boot.votes.find? guid = some a) (hne : a ≠ .pending) :
    s.updateBoot env guid accept = { s with boots := s.boots.set (s.getGroup guid) boot } := by
  have hinsert : boot.votes.insert guid .deny = boot.votes := by
    rw [OrderedMap.insert, if_pos (contains_iff.mpr ⟨a, ha⟩)]
  simp [updateBoot, h, hgroup, hinsert, ha, hne]

theorem endBoot_boots (env : MgrEnv) (gguid : Guid) (boot : LfgPlayerBoot) (agreeNum : ℕ)
    (s : LFGMgr) : (s.endBoot env gguid boot agreeNum).boots.find? gguid = none :=
  find?_erase_self _ _

/-- **A voter who has to answer**: the vote goes on, or ends with three equal answers. -/
theorem updateBoot_of_open {boot : LfgPlayerBoot} (hgroup : s.getGroup guid ≠ 0)
    (h : s.boots.find? (s.getGroup guid) = some boot)
    (hopen : boot.votes.find? guid = some .pending)
    (hagree : Ballot.count boot.votes .agree < lfgGroupKickVotesNeeded)
    (hdeny : Ballot.count boot.votes .deny < lfgGroupKickVotesNeeded) :
    s.updateBoot env guid accept =
      let votes := boot.votes.set guid (.ofBool accept)
      if Ballot.count votes .agree < lfgGroupKickVotesNeeded ∧
          Ballot.count votes .deny < lfgGroupKickVotesNeeded then
        { s with boots := s.boots.set (s.getGroup guid) { boot with votes := votes } }
      else
        s.endBoot env (s.getGroup guid) { boot with votes := votes, inProgress := false }
          (Ballot.count votes .agree) := by
  have hinsert : boot.votes.insert guid .deny = boot.votes := by
    rw [OrderedMap.insert, if_pos (contains_iff.mpr ⟨_, hopen⟩)]
  have hagree' := Ballot.count_set_le boot.votes guid (.ofBool accept) .agree
  have hdeny' := Ballot.count_set_le boot.votes guid (.ofBool accept) .deny
  -- The bytes do not overflow: neither count exceeds three.
  have hcount : countBoot (boot.votes.set guid (.ofBool accept)) =
      (Ballot.count (boot.votes.set guid (.ofBool accept)) .agree +
        Ballot.count (boot.votes.set guid (.ofBool accept)) .deny,
        Ballot.count (boot.votes.set guid (.ofBool accept)) .agree) := by
    rw [countBoot, countP_ne_pending]
    simp only [lfgGroupKickVotesNeeded] at hagree hdeny
    refine Prod.ext (Nat.mod_eq_of_lt ?_) (Nat.mod_eq_of_lt ?_)
    · split_ifs at hagree' hdeny' <;> omega
    · change Ballot.count (boot.votes.set guid (.ofBool accept)) .agree < _
      split_ifs at hagree' <;> omega
  simp only [updateBoot, h, hgroup, hinsert, hopen, hcount, if_false, ne_eq, not_true_eq_false,
    Nat.add_sub_cancel_left]

/-! ## Who is in the group -/

theorem SameGroups.refl (s : LFGMgr) : s.SameGroups s := ⟨fun _ => rfl, fun _ => rfl⟩

theorem Restated.sameGroups {s s' : LFGMgr} (h : Restated s s') : s.SameGroups s' :=
  ⟨h.group, h.members⟩

theorem isOut_onRemoveMember (env : MgrEnv) (gguid guid : Guid) (h : s.isOptionEnabled = true) :
    (s.onRemoveMember env gguid guid).IsOut gguid guid := by
  have hout : ∀ s : LFGMgr, ((s.setGroup guid 0).removePlayerFromGroup gguid guid).IsOut gguid
      guid := by
    intro s
    constructor
    · rw [removePlayerFromGroup, getGroup, updateGroup_players, setGroup, updatePlayer_players,
        if_pos rfl]
    · rw [removePlayerFromGroup, getPlayers, updateGroup_groups, if_pos rfl]
      exact fun hmem => (OrderedSet.mem_erase.mp hmem).2 rfl
  rw [onRemoveMember, if_pos h]
  split_ifs
  · exact hout _
  · exact hout _

theorem IsOut.updateGroup {gguid : Guid} (h : s.IsOut gguid guid) (gguid' : Guid)
    {f : LfgGroupData → LfgGroupData} (hplayers : ∀ d, (f d).players = d.players) :
    (s.updateGroup gguid' f).IsOut gguid guid := by
  have hsame := (Restated.updateGroup s gguid' hplayers).sameGroups
  exact ⟨(hsame.group guid).trans h.1, fun hmem => h.2 (hsame.members gguid ▸ hmem)⟩

theorem IsOut.onDisband {gguid : Guid} (h : s.IsOut gguid guid) :
    (s.onDisband gguid).IsOut gguid guid := by
  rw [LFGMgr.onDisband]
  split_ifs
  · have hgroup : ((s.getPlayers gguid).elems.foldl
        (fun s guid => (s.clearState guid).setGroup guid 0) s).getGroup guid = 0 := by
      refine foldl_invariant (fun s : LFGMgr => s.getGroup guid = 0) (fun s p _ hs => ?_) h.1
      rw [getGroup, LFGMgr.setGroup, updatePlayer_players]
      split_ifs
      · rfl
      · exact ((Restated.clearState s p).group guid).trans hs
    refine ⟨hgroup, ?_⟩
    rw [getPlayers, updateGroup_groups, if_pos rfl]
    exact OrderedSet.not_mem_empty guid
  · exact h

/-- **Who is removed is out of the group**, whatever becomes of the group. -/
theorem isOut_removeMember (env : MgrEnv) (gguid guid : Guid) (h : s.isOptionEnabled = true) :
    (s.removeMember env gguid guid).IsOut gguid guid := by
  have hout := isOut_onRemoveMember env gguid guid h
  have hleader : ∀ leader, ((s.onRemoveMember env gguid guid).onChangeLeader gguid leader).IsOut
      gguid guid := by
    intro leader
    rw [onChangeLeader]
    split_ifs
    · exact hout.updateGroup gguid fun _ => rfl
    · exact hout
  rw [removeMember]
  dsimp only
  generalize (if (s.groups gguid).isLFGGroup then 1 else 2) = least
  generalize heq : (if (s.groups gguid).leader = guid then _ else _ : LFGMgr) = led
  have hled : led.IsOut gguid guid := by
    subst heq
    split_ifs
    · cases env.nextLeader gguid guid with
      | none => exact hout
      | some leader => exact hleader leader
    · exact hout
  split_ifs
  · exact hled.onDisband
  · exact hled
  · exact hout.onDisband

theorem endBoot_groups (env : MgrEnv) (gguid : Guid) (boot : LfgPlayerBoot) (agreeNum : ℕ)
    (h : s.isOptionEnabled = true) :
    (agreeNum = lfgGroupKickVotesNeeded →
      (s.endBoot env gguid boot agreeNum).IsOut gguid boot.victim) ∧
    (agreeNum ≠ lfgGroupKickVotesNeeded → s.SameGroups (s.endBoot env gguid boot agreeNum)) := by
  have hplayers : Restated s (boot.votes.keys.foldl
      (fun s pguid => if pguid ≠ boot.victim then s.setState pguid .dungeon else s) s) := by
    refine Restated.foldl (fun s pguid => ?_) _ s
    split_ifs
    · exact Restated.setState s pguid .dungeon
    · exact Restated.refl s
  have hrestated := hplayers.trans (Restated.setState _ gguid .dungeon)
  rw [endBoot]
  constructor
  · intro hkick
    rw [if_pos hkick]
    have hout := isOut_removeMember env gguid boot.victim (hrestated.isOptionEnabled.trans h)
    exact hout.updateGroup gguid fun _ => rfl
  · intro hkept
    rw [if_neg hkept]
    exact ⟨hrestated.group, hrestated.members⟩

/-! ## The beginning -/

theorem find?_bootVotes (votes : OrderedMap Guid LfgAnswer) (players : List Guid)
    (kicker victim p : Guid) :
    (bootVotes votes players kicker victim).find? p =
      if p = kicker then some .agree else if p = victim then some .deny
      else if p ∈ players then some .pending else votes.find? p := by
  have hplayers : ∀ (players : List Guid) (votes : OrderedMap Guid LfgAnswer),
      (players.foldl (fun votes guid => votes.set guid .pending) votes).find? p =
        if p ∈ players then some .pending else votes.find? p := by
    intro players
    induction players with
    | nil => exact fun _ => by simp
    | cons guid players ih =>
      intro votes
      rw [List.foldl_cons, ih, find?_set]
      by_cases hp : p = guid <;> simp [hp]
  rw [bootVotes, find?_set, find?_set, hplayers]

theorem count_bootVotes (players : List Guid) (kicker victim : Guid) :
    Ballot.count (bootVotes OrderedMap.empty players kicker victim) .agree ≤ 1 ∧
      Ballot.count (bootVotes OrderedMap.empty players kicker victim) .deny ≤ 1 := by
  have hplayers : ∀ (a : LfgAnswer), a ≠ .pending → ∀ (players : List Guid)
      (votes : OrderedMap Guid LfgAnswer), Ballot.count votes a = 0 →
      Ballot.count (players.foldl (fun votes guid => votes.set guid .pending) votes) a = 0 := by
    intro a ha players
    induction players with
    | nil => exact fun _ h => h
    | cons guid players ih =>
      intro votes h
      have hset := Ballot.count_set_le votes guid .pending a
      rw [if_neg ha.symm, h] at hset
      exact ih _ (Nat.le_zero.mp hset)
  have hagree := hplayers .agree (by decide) players OrderedMap.empty rfl
  have hdeny := hplayers .deny (by decide) players OrderedMap.empty rfl
  let votes := players.foldl (fun votes guid => votes.set guid .pending)
    (OrderedMap.empty : OrderedMap Guid LfgAnswer)
  have hvictim := Ballot.count_set_le votes victim .deny
  have hkicker := Ballot.count_set_le (votes.set victim .deny) kicker .agree
  constructor
  · have h₁ := hvictim .agree
    have h₂ := hkicker .agree
    rw [if_neg (by decide)] at h₁
    rw [if_pos rfl] at h₂
    exact h₂.trans (by rw [hagree] at h₁; omega)
  · have h₁ := hvictim .deny
    have h₂ := hkicker .deny
    rw [if_pos rfl] at h₁
    rw [if_neg (by decide)] at h₂
    exact h₂.trans (by rw [hdeny] at h₁; omega)

theorem initBoot_isOptionEnabled (s : LFGMgr) (now : ℕ) (gguid kicker victim : Guid) :
    (s.initBoot now gguid kicker victim).isOptionEnabled = s.isOptionEnabled :=
  ((Restated.setState s gguid .boot).trans
    (Restated.foldl (fun s guid => Restated.setState s guid .boot) _ _)).isOptionEnabled

/-- The votes that a boot opens with where there was none. -/
def opening (s : LFGMgr) (gguid kicker victim : Guid) : OrderedMap Guid LfgAnswer :=
  bootVotes OrderedMap.empty (s.getPlayers gguid).elems kicker victim

/-- **A vote begins**, with no voters but the recorded players. -/
theorem initBoot_boots {gguid kicker victim : Guid}
    (hstale : ∀ boot, s.boots.find? gguid = some boot → ∀ p, boot.votes.contains p = true →
      (s.opening gguid kicker victim).contains p = true) (now : ℕ) :
    ∃ boot, (s.initBoot now gguid kicker victim).boots.find? gguid = some boot ∧
      boot.victim = victim ∧ boot.votes = s.opening gguid kicker victim := by
  have hrestated := Restated.setState s gguid .boot
  refine ⟨_, find?_set_self _ _ _, rfl, ?_⟩
  change bootVotes ((s.setState gguid .boot).boots.get gguid).votes
    ((s.setState gguid .boot).getPlayers gguid).elems kicker victim = _
  rw [hrestated.boots, hrestated.members]
  refine ext_find? fun p => ?_
  rw [opening, find?_bootVotes, find?_bootVotes]
  by_cases hp : p = kicker ∨ p = victim ∨ p ∈ (s.getPlayers gguid).elems
  · rcases hp with hp | hp | hp <;> simp [hp]
  · -- Whoever is left from an earlier vote is one of the recorded players.
    rw [not_or, not_or] at hp
    have hnone : (s.boots.get gguid).votes.find? p = none := by
      rw [OrderedMap.get]
      cases hboot : s.boots.find? gguid with
      | none => rfl
      | some boot =>
        by_contra hsome
        have hcontains := hstale boot hboot p (Option.ne_none_iff_isSome.mp hsome)
        rw [OrderedMap.contains, opening, find?_bootVotes, if_neg hp.1, if_neg hp.2.1,
          if_neg hp.2.2] at hcontains
        cases hcontains
    rw [hnone, find?_empty]

end LFGMgr

/-! ## Every run -/

namespace VoteRun

/-- The invariant: the vote is on with fewer than three of either answer, or it has ended with
three of one of them. -/
inductive Inv (opening : OrderedMap Guid LfgAnswer) (gguid victim : Guid) (v : VoteRun) : Prop
  | on (boot : LfgPlayerBoot) (hboot : v.mgr.boots.find? gguid = some boot)
      (hvictim : boot.victim = victim) (hvotes : boot.votes = v.answers opening)
      (hagree : v.number opening .agree < lfgGroupKickVotesNeeded)
      (hdeny : v.number opening .deny < lfgGroupKickVotesNeeded)
      (henabled : v.mgr.isOptionEnabled = true)
  | kicked (hboot : v.mgr.boots.find? gguid = none)
      (hagree : v.number opening .agree = lfgGroupKickVotesNeeded)
      (hdeny : v.number opening .deny < lfgGroupKickVotesNeeded)
  | abandoned (hboot : v.mgr.boots.find? gguid = none)
      (hagree : v.number opening .agree < lfgGroupKickVotesNeeded)
      (hdeny : v.number opening .deny = lfgGroupKickVotesNeeded)

variable {opening : OrderedMap Guid LfgAnswer} {gguid victim : Guid} {v : VoteRun}

theorem Inv.fair (h : v.Inv opening gguid victim) : v.Fair opening gguid := by
  cases h with
  | on boot hboot hvictim hvotes hagree hdeny henabled =>
    refine ⟨fun boot' hboot' => ?_, ?_, fun hthree => absurd hthree hagree.ne⟩
    · cases hboot.symm.trans hboot'
      exact hvotes
    · rw [hboot]
      exact iff_of_false nofun (not_or.mpr ⟨hagree.ne, hdeny.ne⟩)
  | kicked hboot hagree hdeny =>
    refine ⟨fun boot' hboot' => ?_, iff_of_true hboot (.inl hagree), fun _ => hdeny⟩
    cases hboot.symm.trans hboot'
  | abandoned hboot hagree hdeny =>
    refine ⟨fun boot' hboot' => ?_, iff_of_true hboot (.inr hdeny), fun hthree =>
      absurd hthree hagree.ne⟩
    cases hboot.symm.trans hboot'

theorem FairAnswer.refl (opening : OrderedMap Guid LfgAnswer) (gguid victim : Guid) (v : VoteRun) :
    FairAnswer opening gguid victim v v where
  kicked hpasses := absurd hpasses.2 hpasses.1.ne
  kept _ := .refl v.mgr

theorem step_of_ended (hboot : v.mgr.boots.find? gguid = none) (env : MgrEnv) (guid : Guid)
    (accept : Bool) : v.step gguid (.updateBoot env guid accept) = v := by
  unfold step
  by_cases hgroup : v.mgr.getGroup guid = gguid
  · have hnone : v.mgr.boots.find? (v.mgr.getGroup guid) = none := by rw [hgroup, hboot]
    dsimp only
    rw [if_pos hgroup, LFGMgr.updateBoot_of_none hnone, hboot]
    simp
  · dsimp only
    rw [if_neg hgroup]

theorem Inv.updateBoot (hgguid : gguid ≠ 0) {boot : LfgPlayerBoot}
    (hboot : v.mgr.boots.find? gguid = some boot) (hvictim : boot.victim = victim)
    (hvotes : boot.votes = v.answers opening)
    (hagree : v.number opening .agree < lfgGroupKickVotesNeeded)
    (hdeny : v.number opening .deny < lfgGroupKickVotesNeeded)
    (henabled : v.mgr.isOptionEnabled = true)
    {env : MgrEnv} {guid : Guid} {accept : Bool} (hgroup : v.mgr.getGroup guid = gguid)
    (hrecorded : opening.contains guid = true) :
    (v.step gguid (.updateBoot env guid accept)).Inv opening gguid victim ∧
      FairAnswer opening gguid victim v (v.step gguid (.updateBoot env guid accept)) := by
  have hcontains : (v.answers opening).contains guid = true := by
    rw [answers, Ballot.contains_answers]
    exact hrecorded
  obtain ⟨a, ha⟩ := contains_iff.mp hcontains
  have hboot' : v.mgr.boots.find? (v.mgr.getGroup guid) = some boot := hgroup ▸ hboot
  have hne : v.mgr.getGroup guid ≠ 0 := hgroup ▸ hgguid
  have hstep : v.step gguid (.updateBoot env guid accept) =
      ⟨v.mgr.updateBoot env guid accept, v.calls ++ [(guid, accept)]⟩ := by
    unfold step
    dsimp only
    rw [if_pos hgroup, hboot]
    rfl
  rw [hstep]
  by_cases hopen : a = .pending
  · subst hopen
    have hsnoc : Ballot.answers .pending LfgAnswer.ofBool opening (v.calls ++ [(guid, accept)]) =
        (v.answers opening).set guid (.ofBool accept) :=
      Ballot.answers_snoc_of_open LfgAnswer.ofBool_ne_pending ha accept
    have hnumber : ∀ (mgr : LFGMgr) (a : LfgAnswer),
        (⟨mgr, v.calls ++ [(guid, accept)]⟩ : VoteRun).number opening a =
          Ballot.count ((v.answers opening).set guid (.ofBool accept)) a := by
      intro mgr a
      rw [number, answers, hsnoc]
    rw [LFGMgr.updateBoot_of_open hne hboot' (hvotes ▸ ha) (hvotes ▸ hagree) (hvotes ▸ hdeny),
      hvotes, hgroup]
    have hagree' := Ballot.count_set ha (.ofBool accept) LfgAnswer.agree
    have hdeny' := Ballot.count_set ha (.ofBool accept) LfgAnswer.deny
    rw [if_neg (by decide)] at hagree' hdeny'
    change Ballot.count (v.answers opening) .agree < _ at hagree
    change Ballot.count (v.answers opening) .deny < _ at hdeny
    -- Only one of the counts goes up.
    have hone : (if LfgAnswer.ofBool accept = .agree then 1 else 0) +
        (if LfgAnswer.ofBool accept = .deny then 1 else 0) ≤ 1 := by cases accept <;> decide
    generalize hset : (v.answers opening).set guid (.ofBool accept) =
      votes at hnumber hagree' hdeny'
    by_cases hlt : Ballot.count votes .agree < lfgGroupKickVotesNeeded ∧
        Ballot.count votes .deny < lfgGroupKickVotesNeeded
    · rw [if_pos hlt]
      refine ⟨.on _ (find?_set_self _ _ _) hvictim (hset ▸ hsnoc.symm) ?_ ?_ henabled,
        fun hpasses => absurd hpasses.2 ?_, fun _ => ⟨fun _ => rfl, fun _ => rfl⟩⟩
      · rw [hnumber]
        exact hlt.1
      · rw [hnumber]
        exact hlt.2
      · rw [hnumber]
        exact hlt.1.ne
    · rw [if_neg hlt]
      have hnone := LFGMgr.endBoot_boots env gguid { boot with votes := votes, inProgress := false }
        (Ballot.count votes .agree) v.mgr
      obtain ⟨hout, hkept⟩ := LFGMgr.endBoot_groups env gguid
        { boot with votes := votes, inProgress := false } (Ballot.count votes .agree) henabled
      by_cases hkick : Ballot.count votes .agree = lfgGroupKickVotesNeeded
      · refine ⟨.kicked hnone ?_ ?_, fun _ => hvictim ▸ hout hkick, fun hnot =>
          absurd ⟨hagree, ?_⟩ hnot⟩
        · rw [hnumber]
          exact hkick
        · rw [hnumber]
          omega
        · rw [hnumber]
          exact hkick
      · refine ⟨.abandoned hnone ?_ ?_, fun hpasses => absurd hpasses.2 ?_, fun _ => hkept hkick⟩
        · rw [hnumber]
          omega
        · rw [hnumber]
          omega
        · rw [hnumber]
          exact hkick
  · have hsnoc : Ballot.answers .pending LfgAnswer.ofBool opening (v.calls ++ [(guid, accept)]) =
        v.answers opening := Ballot.answers_snoc_of_answered ha hopen accept
    have hnumber : ∀ (mgr : LFGMgr) (a : LfgAnswer),
        (⟨mgr, v.calls ++ [(guid, accept)]⟩ : VoteRun).number opening a = v.number opening a := by
      intro mgr a
      rw [number, answers, hsnoc]
      rfl
    rw [LFGMgr.updateBoot_of_answered hne hboot' (hvotes ▸ ha) hopen, hgroup]
    refine ⟨.on boot (find?_set_self _ _ _) hvictim (hvotes.trans hsnoc.symm) ?_ ?_ henabled,
      fun hpasses => absurd hpasses.2 ?_, fun _ => ⟨fun _ => rfl, fun _ => rfl⟩⟩
    · rw [hnumber]
      exact hagree
    · rw [hnumber]
      exact hdeny
    · rw [hnumber]
      exact hagree.ne

theorem Inv.answer (hgguid : gguid ≠ 0) (h : v.Inv opening gguid victim) {env : MgrEnv}
    {guid : Guid} {accept : Bool} (hok : v.Recorded opening gguid (.updateBoot env guid accept)) :
    (v.step gguid (.updateBoot env guid accept)).Inv opening gguid victim ∧
      FairAnswer opening gguid victim v (v.step gguid (.updateBoot env guid accept)) := by
  have hidle : v.step gguid (.updateBoot env guid accept) = v →
      (v.step gguid (.updateBoot env guid accept)).Inv opening gguid victim ∧
        FairAnswer opening gguid victim v (v.step gguid (.updateBoot env guid accept)) :=
    fun hsame => hsame.symm ▸ ⟨h, .refl opening gguid victim v⟩
  cases h with
  | on boot hboot hvictim hvotes hagree hdeny henabled =>
    by_cases hgroup : v.mgr.getGroup guid = gguid
    · exact Inv.updateBoot hgguid hboot hvictim hvotes hagree hdeny henabled hgroup
        (hok hgroup (by rw [hboot]; rfl))
    · exact hidle (if_neg hgroup)
  | kicked hboot hagree hdeny => exact hidle (step_of_ended hboot env guid accept)
  | abandoned hboot hagree hdeny => exact hidle (step_of_ended hboot env guid accept)

theorem Inv.step (hgguid : gguid ≠ 0) (h : v.Inv opening gguid victim) {op : VoteOp}
    (hok : v.Recorded opening gguid op) : (v.step gguid op).Inv opening gguid victim := by
  have hmembers : ∀ mgr : LFGMgr, mgr.boots = v.mgr.boots →
      mgr.isOptionEnabled = v.mgr.isOptionEnabled →
      ({ v with mgr := mgr } : VoteRun).Inv opening gguid victim := by
    intro mgr hboots henabled'
    cases h with
    | on boot hboot hvictim hvotes hagree hdeny henabled =>
      exact .on boot ((congrArg (find? · gguid) hboots).trans hboot) hvictim hvotes hagree hdeny
        (henabled'.trans henabled)
    | kicked hboot hagree hdeny =>
      exact .kicked ((congrArg (find? · gguid) hboots).trans hboot) hagree hdeny
    | abandoned hboot hagree hdeny =>
      exact .abandoned ((congrArg (find? · gguid) hboots).trans hboot) hagree hdeny
  cases op with
  | updateBoot env guid accept => exact (h.answer hgguid hok).1
  | joins guid gguid' => exact hmembers _ rfl rfl
  | leaves guid gguid' => exact hmembers _ rfl rfl

/-- **Votes to kick are fair** in every run of answers of players who were recorded when the vote
began, and so is every further answer of one of them. -/
theorem fair_run {s : LFGMgr} {gguid kicker victim : Guid} (hgguid : gguid ≠ 0)
    (henabled : s.isOptionEnabled = true)
    (hstale : ∀ boot, s.boots.find? gguid = some boot → ∀ p, boot.votes.contains p = true →
      (s.opening gguid kicker victim).contains p = true)
    (now : ℕ) (ops : List VoteOp)
    (h : Admissible (step gguid) (Recorded (s.opening gguid kicker victim) gguid)
      (start now gguid kicker victim s) ops) :
    let v := run (step gguid) (start now gguid kicker victim s) ops
    v.Fair (s.opening gguid kicker victim) gguid ∧ ∀ env guid accept,
      v.Recorded (s.opening gguid kicker victim) gguid (.updateBoot env guid accept) →
      FairAnswer (s.opening gguid kicker victim) gguid victim v
        (v.step gguid (.updateBoot env guid accept)) := by
  obtain ⟨boot, hboot, hvictim, hvotes⟩ := LFGMgr.initBoot_boots hstale now
  obtain ⟨hagree, hdeny⟩ :=
    LFGMgr.count_bootVotes (s.getPlayers gguid).elems kicker victim
  have hanswers : (start now gguid kicker victim s).answers (s.opening gguid kicker victim) =
      s.opening gguid kicker victim := Ballot.answers_nil _
  have hstart : (start now gguid kicker victim s).Inv
      (s.opening gguid kicker victim) gguid victim := by
    refine .on boot hboot hvictim (hvotes.trans hanswers.symm) ?_ ?_ ?_
    · rw [number, hanswers]
      exact hagree.trans_lt (by decide)
    · rw [number, hanswers]
      exact hdeny.trans_lt (by decide)
    · exact (LFGMgr.initBoot_isOptionEnabled s now gguid kicker victim).trans henabled
  have hinv := run_invariant (Inv (s.opening gguid kicker victim) gguid victim)
    (fun _ _ hv hok => Inv.step hgguid hv hok) hstart h
  exact ⟨hinv.fair, fun env guid accept hok => (hinv.answer hgguid hok).2⟩

/-- A server that refuses nothing. -/
def openServer : MgrEnv where
  now := 0
  findPlayer _ := true
  ignores _ _ := false
  usesBgSystem _ := false
  hasDeserter _ := false
  hasCooldown _ := false
  getLFGDungeon _ := none
  cachedDungeonMapStore _ := OrderedSet.empty
  nextLeader _ _ := none
  leftDungeon _ := false
  random := QueueEnv.firstChoice

/-- A dungeon group of three players. -/
def threePlayers : LFGMgr :=
  [1, 2, 3].foldl (fun s guid =>
    (s.setGroup guid (groupGuid 1)).addPlayerToGroup (groupGuid 1) guid) {}

/-- A fourth player is in the group. -/
def fourPlayers : LFGMgr := (threePlayers.setGroup 4 (groupGuid 1)).addPlayerToGroup (groupGuid 1) 4

/-- The first player wants the second one kicked; a fifth one joins, and the third one agrees. -/
def joinedLater : List VoteOp :=
  [.joins 5 (groupGuid 1), .updateBoot openServer 2 true, .updateBoot openServer 3 true]

theorem fair_joinedLater :
    let v := run (step (groupGuid 1)) (start 0 (groupGuid 1) 1 2 fourPlayers) joinedLater
    v.Fair (fourPlayers.opening (groupGuid 1) 1 2) (groupGuid 1) ∧
      (v.step (groupGuid 1) (.updateBoot openServer 4 true)).mgr.IsOut (groupGuid 1) 2 := by
  have hnone : fourPlayers.boots.find? (groupGuid 1) = none := rfl
  obtain ⟨hfair, hanswer⟩ := @fair_run fourPlayers (groupGuid 1) 1 2 (by decide) rfl
    (fun boot hboot => by rw [hnone] at hboot; cases hboot) 0 joinedLater (by decide)
  exact ⟨hfair, (hanswer openServer 4 true (by decide)).kicked ⟨by decide, by decide⟩⟩

/-- Two players who joined later answer. -/
def joinedAnswers : List VoteOp :=
  [.joins 4 (groupGuid 1), .joins 5 (groupGuid 1), .updateBoot openServer 4 true,
    .updateBoot openServer 5 true, .updateBoot openServer 3 true]

/-- They count as two who do not agree: the vote is abandoned with one recorded refusal. -/
theorem not_fair_joinedAnswers :
    ¬ ∀ (s : LFGMgr) (gguid kicker victim : Guid) (now : ℕ) (ops : List VoteOp),
      isGroup gguid = true → s.isOptionEnabled = true → s.boots.find? gguid = none →
      (run (step gguid) (start now gguid kicker victim s) ops).Fair
        (s.opening gguid kicker victim) gguid := by
  intro h
  have hfair := h threePlayers (groupGuid 1) 1 2 0 joinedAnswers (by decide) rfl rfl
  have hover := hfair.over_iff
  revert hover
  decide

end VoteRun

end TeraCore
