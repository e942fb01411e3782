import TeraCore.Commons.OrderedMap
import TeraCore.Entities.ObjectGuid

/-!
# Loot rolls

A roll is held over one item among the players who could loot it.  It records every player's
vote, and beside the votes it counts them in four unsigned bytes: the players who roll, and
those who voted for need, for greed (or to disenchant), and to pass.

## Main definitions

* `Roll`: the votes and the counters
* `Roll.start`: a new roll, with the players who pass automatically
* `Roll.vote`: a player's message, and `Roll.isComplete`, the test for an early end
* `Roll.removeVoter`: a player leaves the group
-/

namespace TeraCore

open Commons

/-- A player's vote in a roll. -/
inductive RollVote where
  | pass
  | need
  | greed
  | disenchant
  | notEmitedYet
  | notValid
  deriving DecidableEq

/-- The vote a roll type asks for; the types from `MAX_ROLL_TYPE` on ask for none. -/
def RollVote.ofRollType (rollType : BitVec 8) : Option RollVote :=
  match rollType.toNat with
  | 0 => some .pass
  | 1 => some .need
  | 2 => some .greed
  | 3 => some .disenchant
  | _ => none

/-- **A roll.** `loot` is the loot the item is in, `none` once that loot is deleted, and
`lootItemsEmpty` whether it has quest items only. -/
structure Roll where
  itemGUID : Guid
  loot : Option ℕ
  lootItemsEmpty : Bool
  playerVote : OrderedMap Guid RollVote
  totalPlayersRolling : BitVec 8
  totalNeed : BitVec 8
  totalGreed : BitVec 8
  totalPass : BitVec 8
  deriving DecidableEq

namespace Roll

/-- A reference that points to its loot. -/
def isValid (r : Roll) : Bool := r.loot.isSome

variable (r : Roll) (guid : Guid)

/-- One player who may loot the item joins the roll; `autoPass` is their setting to pass on
group loot. -/
def addPlayer (autoPass : Bool) : Roll :=
  if autoPass then
    { r with
      totalPlayersRolling := r.totalPlayersRolling + 1
      playerVote := r.playerVote.set guid .pass
      totalPass := r.totalPass + 1 }
  else
    { r with
      totalPlayersRolling := r.totalPlayersRolling + 1
      playerVote := r.playerVote.set guid .notEmitedYet }

/-- A new roll over an item, among the given players in the order they are visited. -/
def start (itemGUID : Guid) (loot : ℕ) (lootItemsEmpty : Bool) (players : List (Guid × Bool)) :
    Roll :=
  players.foldl (fun r e => r.addPlayer e.1 e.2)
    ⟨itemGUID, some loot, lootItemsEmpty, OrderedMap.empty, 0, 0, 0, 0⟩

/-- The switch of `Group::CountRollVote`: the counter of the choice goes up, and the vote is
written over the one before. -/
def vote (rollType : BitVec 8) : Roll :=
  match RollVote.ofRollType rollType with
  | some .pass =>
    { r with totalPass := r.totalPass + 1, playerVote := r.playerVote.set guid .pass }
  | some .need =>
    { r with totalNeed := r.totalNeed + 1, playerVote := r.playerVote.set guid .need }
  | some .greed =>
    { r with totalGreed := r.totalGreed + 1, playerVote := r.playerVote.set guid .greed }
  | some .disenchant =>
    { r with totalGreed := r.totalGreed + 1, playerVote := r.playerVote.set guid .disenchant }
  | _ => r

/-- The test for an early end; the sum is taken in machine integers wider than a byte. -/
def isComplete (r : Roll) : Bool :=
  r.totalPlayersRolling.toNat ≤ r.totalPass.toNat + r.totalNeed.toNat + r.totalGreed.toNat

/-- What `Group::RemoveMember` does to a roll. -/
def removeVoter : Roll :=
  match r.playerVote.find? guid with
  | none => r
  | some v =>
    { r with
      totalGreed := if v = .greed ∨ v = .disenchant then r.totalGreed - 1 else r.totalGreed
      totalNeed := if v = .need then r.totalNeed - 1 else r.totalNeed
      totalPass := if v = .pass then r.totalPass - 1 else r.totalPass
      totalPlayersRolling :=
        if v = .notValid then r.totalPlayersRolling else r.totalPlayersRolling - 1
      playerVote := r.playerVote.erase guid }

@[simp] theorem vote_itemGUID (rollType : BitVec 8) :
    (r.vote guid rollType).itemGUID = r.itemGUID := by
  unfold vote
  split <;> rfl

@[simp] theorem removeVoter_find? : (r.removeVoter guid).playerVote.find? guid = none := by
  unfold removeVoter
  split
  · assumption
  · simp

end Roll

end TeraCore
