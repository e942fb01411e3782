import Mathlib.Data.Char
import Mathlib.Data.List.Lex
import Mathlib.Data.List.TakeWhile
import TeraCore.Commons.OrderedSet
import TeraCore.DungeonFinding.Roles

/-!
# The data of the dungeon finder

What the dungeon finder stores about players, groups, queue entries and proposals, and the
strings that key its cache: the decimal guids of a set, joined by bars.

## Main results

* `concatenateGuids_eq_iff`: two lists have one key exactly if they have the same guids
* `ProposalPool.find?_add`: the new proposal gets an id no other has
-/

namespace TeraCore

open Commons OrderedMap OrderedSet

/-- Where a player or a group is in the dungeon finder. -/
inductive LfgState where
  | none
  | rolecheck
  | queued
  | proposal
  | boot
  | dungeon
  | finishedDungeon
  | raidbrowser
  deriving DecidableEq

inductive LfgAnswer where
  | pending
  | deny
  | agree
  deriving DecidableEq

/-- What a check of a list of queue entries answers. -/
inductive LfgCompatibility where
  | pending
  | wrongGroupSize
  | tooMuchPlayers
  | multipleLfgGroups
  | hasIgnores
  | noRoles
  | noDungeons
  | withLessPlayers
  | badStates
  | matched
  deriving DecidableEq

/-- The answers from `withLessPlayers` on: values under it are not compatible. -/
def LfgCompatibility.isCompatible : LfgCompatibility → Bool
  | withLessPlayers | badStates | matched => true
  | _ => false

/-- A set of dungeon ids. -/
abbrev LfgDungeonSet := OrderedSet ℕ

abbrev LfgGuidSet := OrderedSet Guid

/-- A key of the cache. -/
abbrev LfgKey := List Char

/-- A cached answer. -/
structure LfgCompatibilityData where
  compatibility : LfgCompatibility := .pending
  roles : LfgRolesMap := OrderedMap.empty

/-- **An entry of the queue**: a player, or a group with its players. -/
structure LfgQueueData where
  joinTime : ℕ
  tanks : BitVec 8 := .ofNat 8 lfgTanksNeeded
  healers : BitVec 8 := .ofNat 8 lfgHealersNeeded
  dps : BitVec 8 := .ofNat 8 lfgDpsNeeded
  dungeons : LfgDungeonSet
  roles : LfgRolesMap
  /-- The best compatible combination of queued entries. -/
  bestCompatible : LfgKey := []

instance : Inhabited LfgQueueData :=
  ⟨{ joinTime := 0, dungeons := OrderedSet.empty, roles := OrderedMap.empty }⟩

inductive LfgProposalState where
  | initiating
  | failed
  | success
  deriving DecidableEq

/-- A player's part in a proposal. -/
structure LfgProposalPlayer where
  role : LfgRoles := 0
  accept : LfgAnswer := .pending
  /-- The guid of the player's group, 0 if there was none. -/
  group : Guid := 0
  deriving DecidableEq

instance : Inhabited LfgProposalPlayer := ⟨{}⟩

/-- **A proposal**: a group that is being formed from queue entries. -/
structure LfgProposal where
  dungeonId : ℕ := 0
  state : LfgProposalState := .initiating
  /-- The dungeon group that looks for more players, 0 if there is none. -/
  group : Guid := 0
  leader : Guid := 0
  cancelTime : ℕ := 0
  isNew : Bool := true
  /-- The queue entries the proposal is made of. -/
  queues : List Guid := []
  players : OrderedMap Guid LfgProposalPlayer := OrderedMap.empty
  deriving DecidableEq

instance : Inhabited LfgProposal := ⟨{}⟩

/-! ## The live proposals -/

/-- The live proposals, by id.  Ids are given in increasing order, and `lastId` is the last. -/
structure ProposalPool where
  store : OrderedMap ℕ LfgProposal
  lastId : ℕ
  le_lastId : ∀ id ∈ store.keys, id ≤ lastId

namespace ProposalPool

def empty : ProposalPool := ⟨OrderedMap.empty, 0, by simp⟩

variable (pool : ProposalPool)

/-- A new proposal, under the next id. -/
def addProposal (proposal : LfgProposal) : ProposalPool where
  store := pool.store.set (pool.lastId + 1) proposal
  lastId := pool.lastId + 1
  le_lastId id h := by
    obtain ⟨p, hp⟩ := mem_keys.mp h
    rw [find?_set] at hp
    split_ifs at hp with hid
    · exact hid.le
    · exact (pool.le_lastId id (mem_keys.mpr ⟨p, hp⟩)).trans (Nat.le_succ _)

/-- The live proposal with an id. -/
def find? (id : ℕ) : Option LfgProposal := pool.store.find? id

/-- The proposal is over. -/
def erase (id : ℕ) : ProposalPool where
  store := pool.store.erase id
  lastId := pool.lastId
  le_lastId j h := by
    obtain ⟨p, hp⟩ := mem_keys.mp h
    rw [find?_erase] at hp
    split_ifs at hp
    exact pool.le_lastId j (mem_keys.mpr ⟨p, hp⟩)

/-- A live proposal after a change. -/
def modify (id : ℕ) (f : LfgProposal → LfgProposal) : ProposalPool where
  store := pool.store.mapVals fun j p => if j = id then f p else p
  lastId := pool.lastId
  le_lastId j h := pool.le_lastId j (by simpa using h)

variable (id : ℕ)

theorem le_lastId_of_find? {p : LfgProposal} {id : ℕ} (h : pool.find? id = some p) :
    id ≤ pool.lastId := pool.le_lastId id (mem_keys.mpr ⟨p, h⟩)

theorem find?_add (p : LfgProposal) :
    (pool.addProposal p).find? id = if id = pool.lastId + 1 then some p else pool.find? id :=
  find?_set _ _ _ _

@[simp] theorem erase_lastId : (pool.erase id).lastId = pool.lastId := rfl

end ProposalPool

/-! ## The keys of the cache -/

variable (guid : Guid)

/-- A guid as a decimal number. -/
def guidString : LfgKey := Nat.toDigits 10 guid

/-- The guids as decimal numbers, with bars between. -/
def joinGuids : List Guid → LfgKey
  | [] => []
  | [guid] => guidString guid
  | guid :: guids => guidString guid ++ '|' :: joinGuids guids

/-- **The key of a list of guids**: its different guids, in increasing order. -/
def concatenateGuids (check : List Guid) : LfgKey := joinGuids (OrderedSet.ofList check).elems

/-- Is the decimal guid somewhere in the key? -/
def LfgKey.mentions (key : LfgKey) (guid : Guid) : Bool := guidString guid <:+: key

theorem guidString_injective : Function.Injective guidString := fun g g' h => by
  rw [← Nat.ofDigitChars_ten_toDigits (n := g), ← Nat.ofDigitChars_ten_toDigits (n := g')]
  exact congrArg (Nat.ofDigitChars 10 · 0) h

theorem guidString_ne_nil : guidString guid ≠ [] := Nat.toDigits_ne_nil

theorem bar_notMem_guidString : '|' ∉ guidString guid := fun h => by
  have := Nat.isDigit_of_mem_toDigits (by decide) (by decide) h
  revert this
  decide

theorem joinGuids_cons_cons (guid j : Guid) (guids : List Guid) :
    joinGuids (guid :: j :: guids) = guidString guid ++ '|' :: joinGuids (j :: guids) := rfl

theorem takeWhile_joinGuids (guids : List Guid) :
    (joinGuids (guid :: guids)).takeWhile (· ≠ '|') = guidString guid := by
  have hall : ∀ c ∈ guidString guid, decide (c ≠ '|') = true := fun c hc =>
    decide_eq_true fun heq => bar_notMem_guidString guid (heq ▸ hc)
  cases guids with
  | nil => exact List.takeWhile_eq_self_iff.mpr hall
  | cons j guids =>
    rw [joinGuids_cons_cons, List.takeWhile_append_of_pos hall]
    simp

theorem joinGuids_ne_nil (guids : List Guid) : joinGuids (guid :: guids) ≠ [] := by
  intro h
  have := takeWhile_joinGuids guid guids
  rw [h] at this
  exact guidString_ne_nil guid this.symm

/-- **The guids can be read back** from what joins them. -/
theorem joinGuids_injective : Function.Injective joinGuids := by
  intro l
  induction l with
  | nil =>
    rintro (_ | ⟨j, l'⟩) h
    · rfl
    · exact absurd h.symm (joinGuids_ne_nil j l')
  | cons guid l ih =>
    rintro (_ | ⟨j, l'⟩) h
    · exact absurd h (joinGuids_ne_nil guid l)
    · have hfirst : guid = j := guidString_injective <| by
        rw [← takeWhile_joinGuids guid l, ← takeWhile_joinGuids j l', h]
      subst hfirst
      cases l with
      | nil =>
        cases l' with
        | nil => rfl
        | cons k l' => simp [joinGuids] at h
      | cons k l =>
        cases l' with
        | nil => simp [joinGuids] at h
        | cons k' l' =>
          have hrest : joinGuids (k :: l) = joinGuids (k' :: l') := by simpa [joinGuids] using h
          rw [ih hrest]

/-- **Two lists have one key exactly if they have the same guids.** -/
theorem concatenateGuids_eq_iff {check check' : List Guid} :
    concatenateGuids check = concatenateGuids check' ↔ ∀ guid, guid ∈ check ↔ guid ∈ check' := by
  constructor
  · intro h guid
    have helems := joinGuids_injective h
    rw [← mem_ofList (l := check), ← mem_ofList (l := check'),
      ← mem_elems, helems, mem_elems]
  · intro h
    have hset : OrderedSet.ofList check = OrderedSet.ofList check' :=
      OrderedSet.ext fun guid => by simpa using h guid
    rw [concatenateGuids, hset, concatenateGuids]

theorem guidString_infix_joinGuids {guid : Guid} {guids : List Guid} (h : guid ∈ guids) :
    guidString guid <:+: joinGuids guids := by
  induction guids with
  | nil => cases h
  | cons j guids ih =>
    cases guids with
    | nil =>
      obtain rfl : guid = j := by simpa using h
      exact List.infix_rfl
    | cons k guids =>
      rcases List.mem_cons.mp h with rfl | h
      · exact (List.prefix_append _ _).isInfix
      · obtain ⟨pre, post, heq⟩ := ih h
        refine ⟨guidString j ++ '|' :: pre, post, ?_⟩
        rw [joinGuids_cons_cons, ← heq]
        simp

theorem mentions_concatenateGuids {guid : Guid} {check : List Guid} (h : guid ∈ check) :
    (concatenateGuids check).mentions guid = true :=
  decide_eq_true (guidString_infix_joinGuids (by simpa using h))

end TeraCore
