import TeraCore.Battlegrounds.Battleground

/-!
# Battlegrounds: who logs out of an arena

A player who logs out of a running arena may be the last one of his side, and then the match ends.
Two places look for that.  `RemovePlayer` of the arena counts who is alive on either side.  After
it, `EventPlayerLoggedOut` counts who is alive on the side that has the number of the player's
faction, where it takes the player for one of them, and does not look whether the match has ended.

The two factions are the two sides only if nobody plays for the side of the other faction.

## Main results

* `Arena.logoutRule_iff`: when a logout keeps the rule, by who is alive on either side
* `Arena.logsOutSafely_of_ordinary`: it does for a living player of the faction of his side, with a
  living opponent
* `Arena.not_logsOutSafely_of_otherFaction`: it does not for a player of the other faction with a
  living teammate and at most one living opponent
* `Arena.not_logoutRule_crossFaction`: the side with a living player loses a member, and wins
-/

namespace TeraCore

open Commons

/-- Who is found in the world, and of them, who is alive and not a spirit of redemption. -/
structure Sight where
  inWorld : Guid → Bool
  isAlive : Guid → Bool

/-- One if a player is alive, in the world. -/
def Sight.alive (sight : Sight) (guid : Guid) : ℕ :=
  if sight.inWorld guid && sight.isAlive guid then 1 else 0

/-- `SetWinner`: the winner that is stored. -/
def winnerNumber : Option Team → ℕ
  | some .horde => 0
  | some .alliance => 1
  | none => 3

namespace Battleground

variable (bg : Battleground)

def getAlivePlayersCountByTeam (team : Team) (sight : Sight) : ℕ :=
  bg.players.entries.countP fun entry =>
    entry.2.team == some team && sight.inWorld entry.1 && sight.isAlive entry.1

/-- Who wins now, if one side has nobody alive. -/
def arenaWinner (sight : Sight) : Option Team :=
  if bg.getAlivePlayersCountByTeam .alliance sight = 0 ∧ bg.playersCount .horde ≠ 0 then
    some .horde
  else if bg.playersCount .alliance ≠ 0 ∧ bg.getAlivePlayersCountByTeam .horde sight = 0 then
    some .alliance
  else none

/-- Whoever is alive of a faction is the last one, and somebody is on the other side. -/
def lastOfFaction (faction : Team) (sight : Sight) : Bool :=
  decide (bg.getAlivePlayersCountByTeam faction sight ≤ 1) &&
    decide (bg.playersCount faction.other ≠ 0)

/-- At the end of a match whoever is in the world and did not log out is resurrected. -/
def resurrected (sight : Sight) : Sight :=
  { sight with
    isAlive := fun guid => sight.isAlive guid || (sight.inWorld guid &&
      (bg.players.find? guid).any fun player => decide (player.offlineRemoveTime = 0)) }

/-- What the server sees after `RemovePlayer` of the arena, which may have ended the match. -/
def sightAfterRemoval (sight : Sight) : Sight :=
  if (bg.arenaWinner sight).isSome then bg.resurrected sight else sight

/-- How many are alive on a side without a player. -/
def othersAlive (guid : Guid) (team : Team) (sight : Sight) : ℕ :=
  (bg.players.erase guid).entries.countP fun entry =>
    entry.2.team == some team && sight.inWorld entry.1 && sight.isAlive entry.1

/-- How many are on a side without a player, in the world, who are alive or have not logged out. -/
def othersOnline (guid : Guid) (team : Team) (sight : Sight) : ℕ :=
  (bg.players.erase guid).entries.countP fun entry =>
    entry.2.team == some team && sight.inWorld entry.1 &&
      (sight.isAlive entry.1 || decide (entry.2.offlineRemoveTime = 0))

end Battleground

/-- **An arena**, with its players in the world. -/
structure Arena where
  bg : Battleground
  /-- `m_Winner` -/
  winner : ℕ
  sight : Sight

namespace Arena

variable (a : Arena)

/-- **`EndBattleground`** of an arena, without the ratings. -/
def endBattleground (winner : Team) : Arena :=
  { bg := { a.bg with status := .waitLeave }
    winner := winnerNumber (some winner)
    sight := a.bg.resurrected a.sight }

def checkArenaWinConditions : Arena :=
  match a.bg.arenaWinner a.sight with
  | some team => a.endBattleground team
  | none => a

def removePlayer : Arena :=
  if a.bg.status = .waitLeave then a else a.checkArenaWinConditions

variable (guid : Guid)

/-- `m_Players[guid].OfflineRemoveTime` is set, and nobody is removed. -/
def offline (gameTime : ℕ) : Arena :=
  { a with bg := a.bg.eventPlayerLoggedOut guid gameTime }

/-- **`EventPlayerLoggedOut`**, of a player of the faction `faction`. -/
def eventPlayerLoggedOut (faction : Team) (gameTime : ℕ) : Arena :=
  let a := a.offline guid gameTime
  if a.bg.status = .inProgress then
    let a := a.removePlayer
    -- `GetTeam` is the faction of the player, and the player is still in the world.
    if a.bg.lastOfFaction faction a.sight then a.endBattleground faction.other else a
  else a

/-! ## The rule -/

/-- **The rule of a logout**: the match ends only if nobody who is alive is left on the side of the
player, and the other side wins. -/
def KeepsLogoutRule (faction : Team) (gameTime : ℕ) (team : Team) : Prop :=
  (a.eventPlayerLoggedOut guid faction gameTime).bg.status = .waitLeave →
    a.bg.othersAlive guid team a.sight = 0 ∧
      (a.eventPlayerLoggedOut guid faction gameTime).winner = winnerNumber (some team.other)

/-- Nobody is alive on the other side, and the side of the player wins.  When nobody is alive at
all, the horde's side does. -/
def OwnSideWins (team : Team) : Prop :=
  a.bg.othersAlive guid team.other a.sight = 0 ∧ a.bg.playersCount team ≠ 0 ∧
    (team = .horde ∨ a.bg.othersAlive guid team a.sight + a.sight.alive guid ≠ 0 ∨
      a.bg.playersCount team.other = 0)

/-- Nobody is alive on the side of the player, and the other side wins. -/
def OtherSideWins (team : Team) : Prop :=
  a.bg.othersAlive guid team a.sight + a.sight.alive guid = 0 ∧
    a.bg.playersCount team.other ≠ 0 ∧
    (team = .alliance ∨ a.bg.othersAlive guid team.other a.sight ≠ 0 ∨ a.bg.playersCount team = 0)

instance (guid : Guid) (team : Team) : Decidable (a.OwnSideWins guid team) :=
  inferInstanceAs (Decidable (_ ∧ _ ∧ _))

instance (guid : Guid) (team : Team) : Decidable (a.OtherSideWins guid team) :=
  inferInstanceAs (Decidable (_ ∧ _ ∧ _))

/-- **When a player logs out without harm**, by the living and the players of either side.
* If the other side is dead, he is of the faction of his side, nobody else of it is alive, and at
  most one is there when the dead are resurrected, so that the wrong end is overruled.
* Else, if he is of the faction of his side, he is not dead with exactly one living teammate.
* Else there are two living opponents; after an end, two that can be resurrected. -/
def LogsOutSafely (faction team : Team) : Prop :=
  if a.OwnSideWins guid team then
    faction = team ∧ a.bg.othersAlive guid team a.sight = 0 ∧
      a.bg.othersOnline guid team a.sight + a.sight.alive guid ≤ 1 ∧
      a.bg.playersCount team.other ≠ 0
  else if faction = team then
    ¬(a.bg.othersAlive guid team a.sight = 1 ∧ a.sight.alive guid = 0 ∧
      a.bg.playersCount team.other ≠ 0)
  else if a.OtherSideWins guid team then
    1 < a.bg.othersOnline guid team.other a.sight ∨ a.bg.playersCount team = 0
  else 1 < a.bg.othersAlive guid team.other a.sight ∨ a.bg.playersCount team = 0

instance (guid : Guid) (faction team : Team) : Decidable (a.LogsOutSafely guid faction team) := by
  unfold LogsOutSafely
  infer_instance

variable {a} {guid} {faction team : Team} {gameTime : ℕ} {sight : Sight}

/-! ## Who is alive -/

theorem getAlivePlayersCountByTeam_eq {bg : Battleground} {player : BattlegroundPlayer}
    (h : bg.players.find? guid = some player) (team : Team) (sight : Sight) :
    bg.getAlivePlayersCountByTeam team sight = bg.othersAlive guid team sight +
      if player.team == some team && sight.inWorld guid && sight.isAlive guid then 1 else 0 := by
  rw [Battleground.getAlivePlayersCountByTeam, (OrderedMap.perm_erase h).countP_eq,
    List.countP_cons]
  rfl

/-- The player counts on his own side only. -/
theorem getAlivePlayersCountByTeam_of_team {bg : Battleground}
    (hteam : bg.getPlayerTeam guid = some team) (sight : Sight) :
    bg.getAlivePlayersCountByTeam team sight =
        bg.othersAlive guid team sight + sight.alive guid ∧
      bg.getAlivePlayersCountByTeam team.other sight =
        bg.othersAlive guid team.other sight := by
  obtain ⟨player, hplayer, hplayerTeam⟩ := Option.bind_eq_some_iff.mp hteam
  rw [getAlivePlayersCountByTeam_eq hplayer, getAlivePlayersCountByTeam_eq hplayer, hplayerTeam]
  constructor
  · simp [Sight.alive]
  · cases team <;> simp [Team.other]

theorem offline_players (hteam : a.bg.getPlayerTeam guid = some team) (gameTime : ℕ) :
    ∃ player player', a.bg.players.find? guid = some player ∧
      (a.offline guid gameTime).bg.players.find? guid = some player' ∧
      player.team = some team ∧ player'.team = some team ∧ player'.offlineRemoveTime ≠ 0 := by
  obtain ⟨player, hplayer, hplayerTeam⟩ := Option.bind_eq_some_iff.mp hteam
  refine ⟨player, { player with offlineRemoveTime := gameTime + maxOfflineTime }, hplayer, ?_,
    hplayerTeam, hplayerTeam, Nat.succ_ne_zero _⟩
  change (a.bg.players.set guid _).find? guid = _
  rw [OrderedMap.find?_set_self, hplayer, Option.getD_some]

theorem offline_erase (a : Arena) (guid : Guid) (gameTime : ℕ) :
    (a.offline guid gameTime).bg.players.erase guid = a.bg.players.erase guid := by
  simp only [offline, Battleground.eventPlayerLoggedOut, Battleground.setOfflineRemoveTime,
    OrderedMap.erase_set]

section

variable (hteam : a.bg.getPlayerTeam guid = some team)
include hteam

theorem offline_getAlivePlayersCountByTeam (gameTime : ℕ) (side : Team) (sight : Sight) :
    (a.offline guid gameTime).bg.getAlivePlayersCountByTeam side sight =
      a.bg.getAlivePlayersCountByTeam side sight := by
  obtain ⟨player, player', hplayer, hplayer', hplayerTeam, hplayerTeam', -⟩ :=
    offline_players hteam gameTime
  rw [getAlivePlayersCountByTeam_eq hplayer, getAlivePlayersCountByTeam_eq hplayer',
    Battleground.othersAlive, offline_erase, hplayerTeam, hplayerTeam']
  rfl

theorem offline_arenaWinner (gameTime : ℕ) (sight : Sight) :
    (a.offline guid gameTime).bg.arenaWinner sight = a.bg.arenaWinner sight := by
  rw [Battleground.arenaWinner, Battleground.arenaWinner,
    offline_getAlivePlayersCountByTeam hteam, offline_getAlivePlayersCountByTeam hteam]
  rfl

theorem offline_lastOfFaction (gameTime : ℕ) (faction : Team) (sight : Sight) :
    (a.offline guid gameTime).bg.lastOfFaction faction sight =
      a.bg.lastOfFaction faction sight := by
  rw [Battleground.lastOfFaction, Battleground.lastOfFaction,
    offline_getAlivePlayersCountByTeam hteam]
  rfl

/-! ## The dead at the end of a match -/

theorem alive_resurrected (gameTime : ℕ) (sight : Sight) :
    ((a.offline guid gameTime).bg.resurrected sight).alive guid = sight.alive guid := by
  obtain ⟨-, player', -, hplayer', -, -, htime⟩ := offline_players hteam gameTime
  simp [Sight.alive, Battleground.resurrected, hplayer', htime]

end

/-- Everybody else is, who is in the world and has not logged out. -/
theorem othersAlive_resurrected (a : Arena) (guid : Guid) (gameTime : ℕ) (side : Team)
    (sight : Sight) :
    a.bg.othersAlive guid side ((a.offline guid gameTime).bg.resurrected sight) =
      a.bg.othersOnline guid side sight := by
  refine List.countP_congr fun entry hentry => ?_
  -- The entry of another player is the one that the end of the match looks at.
  have hfind : (a.offline guid gameTime).bg.players.find? entry.1 = some entry.2 := by
    rw [← offline_erase a guid gameTime, OrderedMap.mem_entries, OrderedMap.find?_erase] at hentry
    split at hentry
    · cases hentry
    · exact hentry
  simp only [Battleground.resurrected, hfind, Option.any_some]
  cases sight.inWorld entry.1 <;> simp

/-! ## What a logout does -/

/-- Who wins by a logout, if the match ends: the test of the faction has the last word. -/
def logoutWinner (a : Arena) (guid : Guid) (faction : Team) (gameTime : ℕ) : Option Team :=
  if a.bg.lastOfFaction faction ((a.offline guid gameTime).bg.sightAfterRemoval a.sight) then
    some faction.other
  else a.bg.arenaWinner a.sight

theorem eventPlayerLoggedOut_spec (hrunning : a.bg.status = .inProgress)
    (hteam : a.bg.getPlayerTeam guid = some team) (faction : Team) (gameTime : ℕ) :
    ((a.eventPlayerLoggedOut guid faction gameTime).bg.status = .waitLeave ↔
      (a.logoutWinner guid faction gameTime).isSome) ∧
    ∀ winner ∈ a.logoutWinner guid faction gameTime,
      (a.eventPlayerLoggedOut guid faction gameTime).winner = winnerNumber (some winner) := by
  have hstatus : (a.offline guid gameTime).bg.status = .inProgress := hrunning
  have hgoesOn : (a.offline guid gameTime).bg.status ≠ .waitLeave := by
    rw [hstatus]
    decide
  have hwinnerEq := offline_arenaWinner hteam gameTime a.sight
  have hlastEq := offline_lastOfFaction hteam gameTime faction
  have hsight : (a.offline guid gameTime).sight = a.sight := rfl
  simp only [eventPlayerLoggedOut, if_pos hstatus, removePlayer, if_neg hgoesOn,
    checkArenaWinConditions, logoutWinner, hsight, hwinnerEq, Battleground.sightAfterRemoval]
  cases hwinner : a.bg.arenaWinner a.sight with
  | none =>
    simp only [Option.isSome_none, Bool.false_eq_true, if_false, hsight, hlastEq]
    by_cases hlast : a.bg.lastOfFaction faction a.sight = true
    · simp [hlast, endBattleground]
    · simp [hlast, hgoesOn]
  | some first =>
    have hended : ((a.offline guid gameTime).endBattleground first).bg.lastOfFaction faction
        ((a.offline guid gameTime).bg.resurrected a.sight) =
          a.bg.lastOfFaction faction ((a.offline guid gameTime).bg.resurrected a.sight) :=
      hlastEq _
    have hsight' : ((a.offline guid gameTime).endBattleground first).sight =
        (a.offline guid gameTime).bg.resurrected a.sight := rfl
    simp only [Option.isSome_some, if_true, hsight', hended]
    by_cases hlast : a.bg.lastOfFaction faction
        ((a.offline guid gameTime).bg.resurrected a.sight) = true
    · simp [hlast, endBattleground]
    · simp [hlast, endBattleground]

/-! ## The exact condition -/

theorem winnerNumber_inj {team team' : Team}
    (h : winnerNumber (some team) = winnerNumber (some team')) : team = team' := by
  cases team <;> cases team' <;> first | rfl | exact absurd h (by decide)

theorem other_other (team : Team) : team.other.other = team := by cases team <;> rfl

theorem other_ne (team : Team) : team.other ≠ team := by cases team <;> decide

theorem eq_other_iff {team team' : Team} : team = team'.other ↔ team ≠ team' := by
  cases team <;> cases team' <;> decide

theorem keepsLogoutRule_iff (hrunning : a.bg.status = .inProgress)
    (hteam : a.bg.getPlayerTeam guid = some team) :
    a.KeepsLogoutRule guid faction gameTime team ↔
      ∀ winner ∈ a.logoutWinner guid faction gameTime,
        a.bg.othersAlive guid team a.sight = 0 ∧ winner = team.other := by
  obtain ⟨hends, hwinner⟩ := eventPlayerLoggedOut_spec hrunning hteam faction gameTime
  rw [KeepsLogoutRule, hends]
  constructor
  · intro hrule winner hmem
    obtain ⟨hothers, heq⟩ := hrule (Option.isSome_of_mem hmem)
    rw [hwinner winner hmem] at heq
    exact ⟨hothers, winnerNumber_inj heq⟩
  · intro hrule hsome
    obtain ⟨winner, hmem⟩ := Option.isSome_iff_exists.mp hsome
    obtain ⟨hothers, rfl⟩ := hrule winner hmem
    exact ⟨hothers, hwinner _ hmem⟩

section

variable (hteam : a.bg.getPlayerTeam guid = some team)
include hteam

theorem arenaWinner_eq_team_iff :
    a.bg.arenaWinner a.sight = some team ↔ a.OwnSideWins guid team := by
  obtain ⟨hown, hother⟩ := getAlivePlayersCountByTeam_of_team hteam a.sight
  rw [Battleground.arenaWinner, OwnSideWins, ← hother, ← hown]
  cases team <;> grind [Team.other]

theorem arenaWinner_eq_other_iff :
    a.bg.arenaWinner a.sight = some team.other ↔ a.OtherSideWins guid team := by
  obtain ⟨hown, hother⟩ := getAlivePlayersCountByTeam_of_team hteam a.sight
  rw [Battleground.arenaWinner, OtherSideWins, ← hother, ← hown]
  cases team <;> grind [Team.other]

theorem lastOfFaction_team (sight : Sight) :
    a.bg.lastOfFaction team sight = true ↔
      a.bg.othersAlive guid team sight + sight.alive guid ≤ 1 ∧
        a.bg.playersCount team.other ≠ 0 := by
  rw [Battleground.lastOfFaction, (getAlivePlayersCountByTeam_of_team hteam sight).1]
  simp

theorem lastOfFaction_other (sight : Sight) :
    a.bg.lastOfFaction team.other sight = true ↔
      a.bg.othersAlive guid team.other sight ≤ 1 ∧ a.bg.playersCount team ≠ 0 := by
  rw [Battleground.lastOfFaction, (getAlivePlayersCountByTeam_of_team hteam sight).2, other_other]
  simp

theorem forall_mem_logoutWinner (gameTime : ℕ) (P : Team → Prop) :
    (∀ winner ∈ a.logoutWinner guid faction gameTime, P winner) ↔
      if a.bg.lastOfFaction faction
          (if (a.bg.arenaWinner a.sight).isSome then
            (a.offline guid gameTime).bg.resurrected a.sight else a.sight) = true then
        P faction.other
      else ∀ winner ∈ a.bg.arenaWinner a.sight, P winner := by
  rw [logoutWinner, Battleground.sightAfterRemoval, offline_arenaWinner hteam]
  generalize (if (a.bg.arenaWinner a.sight).isSome then
    (a.offline guid gameTime).bg.resurrected a.sight else a.sight) = sight
  split <;> simp

/-- The rule for a player of the faction of his side: the other side wins, or nobody does. -/
theorem keeps_of_faction_eq (gameTime : ℕ) :
    (∀ winner ∈ a.logoutWinner guid team gameTime,
      a.bg.othersAlive guid team a.sight = 0 ∧ winner = team.other) ↔
      a.LogsOutSafely guid team team := by
  have hown := arenaWinner_eq_team_iff (a := a) hteam
  have hother := arenaWinner_eq_other_iff (a := a) hteam
  rw [LogsOutSafely, forall_mem_logoutWinner hteam]
  cases hwinner : a.bg.arenaWinner a.sight with
  | none =>
    have hlast := lastOfFaction_team hteam a.sight
    rw [if_neg (show ¬a.OwnSideWins guid team by simp [← hown, hwinner]), if_pos rfl,
      Option.isSome_none, if_neg Bool.false_ne_true]
    grind
  | some winner =>
    have hlast := lastOfFaction_team hteam ((a.offline guid gameTime).bg.resurrected a.sight)
    rw [othersAlive_resurrected, alive_resurrected hteam] at hlast
    rw [Option.isSome_some, if_pos rfl]
    simp only [hlast, Option.mem_some_iff, forall_eq']
    obtain rfl | hne := eq_or_ne winner team
    · have hside := other_ne winner
      rw [if_pos (hown.mp hwinner)]
      grind
    · obtain rfl := eq_other_iff.mpr hne
      have hnobody := (hother.mp hwinner).1
      rw [if_neg (show ¬a.OwnSideWins guid team by simp [← hown, hwinner, hne])]
      grind

theorem keeps_of_faction_ne (gameTime : ℕ) :
    (∀ winner ∈ a.logoutWinner guid team.other gameTime,
      a.bg.othersAlive guid team a.sight = 0 ∧ winner = team.other) ↔
      a.LogsOutSafely guid team.other team := by
  have hown := arenaWinner_eq_team_iff (a := a) hteam
  have hother := arenaWinner_eq_other_iff (a := a) hteam
  have hside := other_ne team
  rw [LogsOutSafely, forall_mem_logoutWinner hteam, other_other, if_neg hside]
  cases hwinner : a.bg.arenaWinner a.sight with
  | none =>
    have hlast := lastOfFaction_other hteam a.sight
    rw [if_neg (show ¬a.OwnSideWins guid team by simp [← hown, hwinner]),
      if_neg (show ¬a.OtherSideWins guid team by simp [← hother, hwinner]), Option.isSome_none,
      if_neg Bool.false_ne_true]
    grind
  | some winner =>
    have hlast := lastOfFaction_other hteam ((a.offline guid gameTime).bg.resurrected a.sight)
    rw [othersAlive_resurrected] at hlast
    rw [Option.isSome_some, if_pos rfl]
    simp only [hlast, Option.mem_some_iff, forall_eq']
    obtain rfl | hne := eq_or_ne winner team
    · rw [if_pos (hown.mp hwinner)]
      grind
    · obtain rfl := eq_other_iff.mpr hne
      have hnobody := (hother.mp hwinner).1
      rw [if_neg (show ¬a.OwnSideWins guid team by simp [← hown, hwinner, hne]),
        if_pos (hother.mp hwinner)]
      grind

end

/-- **A logout from a running arena keeps the rule** if and only if the player logs out safely. -/
theorem logoutRule_iff (hrunning : a.bg.status = .inProgress)
    (hteam : a.bg.getPlayerTeam guid = some team) :
    a.KeepsLogoutRule guid faction gameTime team ↔ a.LogsOutSafely guid faction team := by
  rw [keepsLogoutRule_iff hrunning hteam]
  obtain rfl | hne := eq_or_ne faction team
  · exact keeps_of_faction_eq hteam gameTime
  · obtain rfl := eq_other_iff.mpr hne
    exact keeps_of_faction_ne hteam gameTime

/-! ## What the condition means -/

/-- A living player of the faction of his side, with a living opponent, logs out safely. -/
theorem logsOutSafely_of_ordinary (halive : a.sight.alive guid = 1)
    (hopponent : a.bg.othersAlive guid team.other a.sight ≠ 0) :
    a.LogsOutSafely guid team team := by
  rw [LogsOutSafely, if_neg fun h => hopponent h.1, if_pos rfl, halive]
  exact fun h => absurd h.2.1 one_ne_zero

theorem not_logsOutSafely_of_otherFaction (hfaction : faction ≠ team)
    (hteammate : a.bg.othersAlive guid team a.sight ≠ 0)
    (hopponents : a.bg.othersAlive guid team.other a.sight ≤ 1)
    (hcount : a.bg.playersCount team ≠ 0) :
    ¬a.LogsOutSafely guid faction team := by
  have hnot : ¬a.OtherSideWins guid team := fun h => hteammate (Nat.add_eq_zero_iff.mp h.1).1
  rw [LogsOutSafely, if_neg hfaction, if_neg hnot]
  split
  · exact fun h => hfaction h.1
  · exact fun h => h.elim hopponents.not_gt hcount

/-! ## An arena -/

/-- Two on either side, and the second player of the horde's side is dead. -/
def twoOnTwo : Arena where
  bg :=
    { ((((Battleground.create 7 2 0).addPlayer 1 .alliance).addPlayer 2 .alliance).addPlayer 3
        .horde).addPlayer 4 .horde with status := .inProgress }
  winner := 2
  sight := ⟨fun _ => true, fun guid => decide (guid ≠ 4)⟩

/-- Player 3, of the horde, logs out: the match is over, and the alliance's side has won. -/
theorem logoutRule_twoOnTwo :
    (twoOnTwo.eventPlayerLoggedOut 3 .horde 0).bg.status = .waitLeave ∧
      twoOnTwo.KeepsLogoutRule 3 .horde 0 .horde :=
  ⟨by decide, (logoutRule_iff (by decide) (by decide)).mpr (by decide)⟩

/-- **A side with a living player wins by a logout of its own.**  Player 1 is of the horde and plays
for the alliance's side, with player 2 alive: the only living opponent is taken for player 1, and
the side that player 1 left is declared the winner. -/
theorem not_logoutRule_crossFaction :
    twoOnTwo.bg.status = .inProgress ∧ twoOnTwo.bg.getPlayerTeam 1 = some .alliance ∧
      twoOnTwo.bg.othersAlive 1 .alliance twoOnTwo.sight = 1 ∧
      (twoOnTwo.eventPlayerLoggedOut 1 .horde 0).bg.status = .waitLeave ∧
      (twoOnTwo.eventPlayerLoggedOut 1 .horde 0).winner = winnerNumber (some .alliance) ∧
      ¬twoOnTwo.KeepsLogoutRule 1 .horde 0 .alliance := by
  have hend : (twoOnTwo.eventPlayerLoggedOut 1 .horde 0).bg.status = .waitLeave := by
    decide
  refine ⟨by decide, by decide, by decide, hend, by decide, fun hrule => ?_⟩
  exact absurd (hrule hend).1 (by decide)

end Arena

end TeraCore
