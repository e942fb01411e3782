import TeraCore.Reputation.Bookkeeping

/-!
# Reputation after a relog

A row of the table has the standing and the flags of a faction.  Loading begins with the factions as
`Initialize` makes them and does not store the flags: it replays them through the setters, and
declares war on whoever hates the player.

## Main results

* `relogged_run`: what is the same after a relog, and what becomes of the other two flags
* `not_sameAfterRelog`: they are not always the same
-/

namespace TeraCore.Reputation

open Commons ReputationMgr OrderedMap

/-- A row of `character_reputation`, whose columns of numbers and flags have sixteen bits. -/
structure ReputationRow where
  faction : ℕ
  standing : ℤ
  flags : BitVec 16
deriving DecidableEq

def ReputationRow.hasFlag (row : ReputationRow) (flag : BitVec 8) : Bool :=
  row.flags &&& flag.setWidth 16 != 0

def FactionState.row (st : FactionState) : ReputationRow where
  faction := st.ID % 2 ^ 16
  standing := st.Standing
  flags := st.Flags.setWidth 16

/-- **A player's factions while he is in the world**, with `needSave` by their places. -/
structure Session where
  mgr : ReputationMgr
  needSave : ℕ → Bool

namespace Session

variable (tables : ReputationTables) (player : Character)

/-- A new player's. -/
def new : Session := ⟨Initialize tables player, fun _ => true⟩

/-- A call; what it sets is to be saved. -/
def call (s : Session) (op : Op) : Session where
  mgr := step tables player s.mgr op
  needSave := fun k => s.needSave k || k ∈ (step tables player s.mgr op).justSet ||
    (step tables player s.mgr op)._factions.find? k ≠ s.mgr._factions.find? k

/-- `DELETE` and `INSERT` of one faction. -/
def saveFaction (needSave : ℕ → Bool) (table : List ReputationRow) (e : ℕ × FactionState) :
    List ReputationRow :=
  if needSave e.1 then table.filter (fun row => row.faction ≠ e.2.row.faction) ++ [e.2.row]
  else table

/-- **`SaveToDB`**: the table of the player after it. -/
def SaveToDB (s : Session) (table : List ReputationRow) : List ReputationRow :=
  s.mgr._factions.entries.foldl (saveFaction s.needSave) table

end Session

/-! ## Loading -/

namespace ReputationMgr

variable (m : ReputationMgr)

/-- `SetVisible` of the state that is stored. -/
def showFaction (k : ℕ) : ReputationMgr :=
  match m._factions.find? k with
  | none => m
  | some faction => m.setVisible k faction

/-- `SetAtWar` of the state that is stored, without the check for hidden factions. -/
def setWar (k : ℕ) (on : Bool) : ReputationMgr :=
  match m._factions.find? k with
  | none => m
  | some faction => { m with _factions := m._factions.set k (atWar faction on) }

/-- Has the stored state a flag? -/
def hasFlagAt (k : ℕ) (flag : BitVec 8) : Bool := (m._factions.find? k).any (·.hasFlag flag)

end ReputationMgr

section Load

variable (tables : ReputationTables) (player : Character)

/-- The replay of a row for the faction that it names. -/
def replayRow (m : ReputationMgr) (f : FactionEntry) (row : ReputationRow) : ReputationMgr :=
  let faction := { (m._factions.find? (listId f)).getD ⟨0, 0, 0, 0⟩ with Standing := row.standing }
  let BaseRep := GetBaseReputation player f
  let m := ({ m with _factions := m._factions.set (listId f) faction }).UpdateRankCounters
    (ReputationToRank BaseRep) (ReputationToRank (BaseRep + row.standing))
  let m := if row.hasFlag FACTION_FLAG_VISIBLE then m.showFaction (listId f) else m
  let m := if row.hasFlag FACTION_FLAG_INACTIVE then m.SetInactive (listId f) true else m
  let m := if row.hasFlag FACTION_FLAG_AT_WAR then m.setWar (listId f) true
    -- allow remove if visible
    else if m.hasFlagAt (listId f) FACTION_FLAG_VISIBLE then m.setWar (listId f) false
    else m
  -- set atWar for hostile
  m.warByRank (listId f) (m.GetRank player f)

/-- A turn of the loop of `LoadFromDB`. -/
def loadRow (s : Session) (row : ReputationRow) : Session :=
  match tables.sFactionStore.LookupEntry row.faction with
  | none => s
  | some f =>
    if f.CanHaveReputation then
      let m := replayRow player s.mgr f row
      let flags := ((m._factions.find? (listId f)).map (·.Flags)).getD 0
      ⟨m, fun k => s.needSave k && !(k = listId f && flags.setWidth 16 = row.flags)⟩
    else s

/-- **`LoadFromDB`** of a fresh manager. -/
def LoadFromDB (rows : List ReputationRow) : Session :=
  rows.foldl (loadRow tables player) (Session.new tables player)

end Load

/-! ## What the setters make of the flags -/

/-- The flags that no setter touches. -/
abbrev fixedFlags : BitVec 8 :=
  ~~~(FACTION_FLAG_VISIBLE ||| FACTION_FLAG_AT_WAR ||| FACTION_FLAG_INACTIVE)

/-- The flags other than the two that the client chooses. -/
abbrev savedFlags : BitVec 8 := ~~~(FACTION_FLAG_AT_WAR ||| FACTION_FLAG_INACTIVE)

namespace FactionState

def neverShown (st : FactionState) : Bool :=
  (st.hasFlag FACTION_FLAG_INVISIBLE_FORCED || st.hasFlag FACTION_FLAG_HIDDEN) &&
    !st.hasFlag FACTION_FLAG_SPECIAL

/-- A faction with which the player's dealings are out of sight. -/
def outOfSight (st : FactionState) : Bool :=
  st.hasFlag FACTION_FLAG_INVISIBLE_FORCED || st.hasFlag FACTION_FLAG_HIDDEN

end FactionState

/-- **What the setters can make** of the state `d` that `Initialize` gives a faction. -/
structure FromDefault (d st : FactionState) : Prop where
  id : st.ID = d.ID
  fixed : st.Flags &&& fixedFlags = d.Flags &&& fixedFlags
  stays : d.hasFlag FACTION_FLAG_VISIBLE = true → st.hasFlag FACTION_FLAG_VISIBLE = true
  visible : st.hasFlag FACTION_FLAG_VISIBLE = true →
    d.hasFlag FACTION_FLAG_VISIBLE = true ∨ d.neverShown = false
  war : st.hasFlag FACTION_FLAG_AT_WAR = true →
    d.hasFlag FACTION_FLAG_AT_WAR = true ∨ d.hasFlag FACTION_FLAG_PEACE_FORCED = false
  inactive : st.hasFlag FACTION_FLAG_INACTIVE = true → d.hasFlag FACTION_FLAG_INACTIVE = true ∨
    d.outOfSight = false ∧ st.hasFlag FACTION_FLAG_VISIBLE = true

/-- The state of a faction that is made visible. -/
def FactionState.shown (st : FactionState) : FactionState :=
  if st.neverShown then st
  else if st.hasFlag FACTION_FLAG_VISIBLE then st
  else { st with Flags := st.Flags ||| FACTION_FLAG_VISIBLE }

section Flags

variable {d st st' : FactionState} {flag : BitVec 8}

section

variable (hfixed : st.Flags &&& fixedFlags = d.Flags &&& fixedFlags)
include hfixed

theorem hasFlag_congr (hflag : fixedFlags &&& flag = flag) : st.hasFlag flag = d.hasFlag flag := by
  unfold FactionState.hasFlag
  rw [← hflag, ← BitVec.and_assoc, ← BitVec.and_assoc, hfixed]

theorem neverShown_congr : st.neverShown = d.neverShown := by
  unfold FactionState.neverShown
  rw [hasFlag_congr hfixed (by decide), hasFlag_congr hfixed (by decide),
    hasFlag_congr hfixed (by decide)]

theorem outOfSight_congr : st.outOfSight = d.outOfSight := by
  unfold FactionState.outOfSight
  rw [hasFlag_congr hfixed (by decide), hasFlag_congr hfixed (by decide)]

end

theorem hasFlag_raise {other : BitVec 8} (h : flag &&& other = 0) :
    ({ st with Flags := st.Flags ||| flag } : FactionState).hasFlag other = st.hasFlag other := by
  unfold FactionState.hasFlag
  rw [hasFlag_or _ _ _ h]

theorem hasFlag_raise_self (h : flag != 0) :
    ({ st with Flags := st.Flags ||| flag } : FactionState).hasFlag flag = true :=
  hasFlag_or_self _ _ h

theorem hasFlag_lower {other : BitVec 8} (h : ~~~flag &&& other = other) :
    ({ st with Flags := st.Flags &&& ~~~flag } : FactionState).hasFlag other =
      st.hasFlag other := by
  unfold FactionState.hasFlag
  rw [hasFlag_and_not _ _ _ h]

theorem hasFlag_lower_self :
    ({ st with Flags := st.Flags &&& ~~~flag } : FactionState).hasFlag flag = false := by
  unfold FactionState.hasFlag
  rw [BitVec.and_assoc, BitVec.and_comm (~~~flag), BitVec.and_not_self]
  simp

/-! Each setter touches one flag. -/

theorem shown_ID : st.shown.ID = st.ID := by
  unfold FactionState.shown
  split_ifs <;> rfl

theorem shown_Standing : st.shown.Standing = st.Standing := by
  unfold FactionState.shown
  split_ifs <;> rfl

theorem shown_fixed : st.shown.Flags &&& fixedFlags = st.Flags &&& fixedFlags := by
  unfold FactionState.shown
  split_ifs
  · rfl
  · rfl
  · exact hasFlag_or _ _ _ (by decide)

theorem shown_visible :
    st.shown.hasFlag FACTION_FLAG_VISIBLE =
      (st.hasFlag FACTION_FLAG_VISIBLE || !st.neverShown) := by
  unfold FactionState.shown
  split_ifs with hnever hvisible
  · rw [hnever, Bool.not_true, Bool.or_false]
  · rw [hvisible, Bool.true_or]
  · rw [hasFlag_raise_self (by decide), Bool.eq_false_of_not_eq_true hnever, Bool.not_false,
      Bool.or_true]

theorem shown_atWar : st.shown.hasFlag FACTION_FLAG_AT_WAR = st.hasFlag FACTION_FLAG_AT_WAR := by
  unfold FactionState.shown
  split_ifs
  · rfl
  · rfl
  · exact hasFlag_raise (by decide)

theorem shown_inactive :
    st.shown.hasFlag FACTION_FLAG_INACTIVE = st.hasFlag FACTION_FLAG_INACTIVE := by
  unfold FactionState.shown
  split_ifs
  · rfl
  · rfl
  · exact hasFlag_raise (by decide)

variable (on : Bool)

theorem inactive_fixed : (inactive st on).Flags &&& fixedFlags = st.Flags &&& fixedFlags := by
  unfold inactive
  split_ifs
  · rfl
  · exact hasFlag_or _ _ _ (by decide)
  · exact hasFlag_and_not _ _ _ (by decide)

theorem inactive_atWar :
    (inactive st on).hasFlag FACTION_FLAG_AT_WAR = st.hasFlag FACTION_FLAG_AT_WAR := by
  unfold inactive
  split_ifs
  · rfl
  · exact hasFlag_raise (by decide)
  · exact hasFlag_lower (by decide)

theorem inactive_inactive : (inactive st on).hasFlag FACTION_FLAG_INACTIVE =
    (on && (st.hasFlag FACTION_FLAG_INACTIVE ||
      !st.outOfSight && st.hasFlag FACTION_FLAG_VISIBLE)) := by
  unfold inactive FactionState.outOfSight
  cases on with
  | false =>
    rw [if_neg (by simp), if_neg (by simp), hasFlag_lower_self]
    rfl
  | true =>
    cases hhidden : st.hasFlag FACTION_FLAG_INVISIBLE_FORCED ||
        st.hasFlag FACTION_FLAG_HIDDEN with
    | true =>
      rw [if_pos rfl]
      simp
    | false =>
      cases hvisible : st.hasFlag FACTION_FLAG_VISIBLE with
      | false =>
        rw [if_pos rfl]
        simp
      | true =>
        rw [if_neg (by decide), if_pos rfl, hasFlag_raise_self (by decide)]
        simp

theorem atWar_fixed : (atWar st on).Flags &&& fixedFlags = st.Flags &&& fixedFlags := by
  unfold atWar
  split_ifs
  · rfl
  · exact hasFlag_or _ _ _ (by decide)
  · exact hasFlag_and_not _ _ _ (by decide)

theorem atWar_inactive :
    (atWar st on).hasFlag FACTION_FLAG_INACTIVE = st.hasFlag FACTION_FLAG_INACTIVE := by
  unfold atWar
  split_ifs
  · rfl
  · exact hasFlag_raise (by decide)
  · exact hasFlag_lower (by decide)

theorem atWar_atWar : (atWar st on).hasFlag FACTION_FLAG_AT_WAR =
    (on && (st.hasFlag FACTION_FLAG_AT_WAR || !st.hasFlag FACTION_FLAG_PEACE_FORCED)) := by
  unfold atWar
  cases on with
  | false =>
    rw [if_neg (by simp), if_neg (by simp), hasFlag_lower_self]
    rfl
  | true =>
    cases hpeace : st.hasFlag FACTION_FLAG_PEACE_FORCED with
    | true =>
      rw [if_pos rfl]
      simp
    | false =>
      rw [if_neg (by simp), if_pos rfl, hasFlag_raise_self (by decide)]
      simp

/-! ### From the default -/

theorem FromDefault.refl (d : FactionState) : FromDefault d d where
  id := rfl
  fixed := rfl
  stays := fun h => h
  visible := .inl
  war := .inl
  inactive := .inl

theorem FromDefault.standing (h : FromDefault d st) (standing : ℤ) :
    FromDefault d { st with Standing := standing } :=
  ⟨h.id, h.fixed, h.stays, h.visible, h.war, h.inactive⟩

theorem FromDefault.shown (h : FromDefault d st) : FromDefault d st.shown where
  id := shown_ID.trans h.id
  fixed := shown_fixed.trans h.fixed
  stays := fun hd => by rw [shown_visible, h.stays hd, Bool.true_or]
  visible := fun hvisible => by
    rw [shown_visible, neverShown_congr h.fixed, Bool.or_eq_true, Bool.not_eq_true'] at hvisible
    exact hvisible.elim h.visible .inr
  war := fun hwar => h.war (shown_atWar ▸ hwar)
  inactive := fun hinactive => by
    rw [shown_inactive] at hinactive
    refine (h.inactive hinactive).imp_right fun hseen => ⟨hseen.1, ?_⟩
    rw [shown_visible, hseen.2, Bool.true_or]

theorem FromDefault.inactive_ (h : FromDefault d st) (on : Bool) :
    FromDefault d (ReputationMgr.inactive st on) where
  id := (inactive_ID on).trans h.id
  fixed := (inactive_fixed on).trans h.fixed
  stays := fun hd => (inactive_visible on).trans (h.stays hd)
  visible := fun hvisible => h.visible ((inactive_visible on) ▸ hvisible)
  war := fun hwar => h.war ((inactive_atWar on) ▸ hwar)
  inactive := fun hinactive => by
    rw [inactive_inactive, outOfSight_congr h.fixed, Bool.and_eq_true, Bool.or_eq_true,
      Bool.and_eq_true, Bool.not_eq_true'] at hinactive
    rw [inactive_visible]
    exact hinactive.2.elim h.inactive .inr

theorem FromDefault.atWar (h : FromDefault d st) (on : Bool) :
    FromDefault d (ReputationMgr.atWar st on) where
  id := (atWar_ID on).trans h.id
  fixed := (atWar_fixed on).trans h.fixed
  stays := fun hd => (atWar_visible on).trans (h.stays hd)
  visible := fun hvisible => h.visible ((atWar_visible on) ▸ hvisible)
  war := fun hwar => by
    have hpeace : st.hasFlag FACTION_FLAG_PEACE_FORCED = d.hasFlag FACTION_FLAG_PEACE_FORCED :=
      hasFlag_congr h.fixed (by decide)
    rw [atWar_atWar, hpeace, Bool.and_eq_true, Bool.or_eq_true, Bool.not_eq_true'] at hwar
    exact hwar.2.elim h.war .inr
  inactive := fun hinactive => by
    rw [atWar_inactive] at hinactive
    rw [atWar_visible]
    exact h.inactive hinactive

/-! ### The replay of one state -/

/-- What the replay of a row makes of a state, with the rank of its standing. -/
def FactionState.replayed (d : FactionState) (row : ReputationRow) (rank : ReputationRank) :
    FactionState :=
  let st := { d with Standing := row.standing }
  let st := if row.hasFlag FACTION_FLAG_VISIBLE then st.shown else st
  let st := if row.hasFlag FACTION_FLAG_INACTIVE then ReputationMgr.inactive st true else st
  let st := if row.hasFlag FACTION_FLAG_AT_WAR then ReputationMgr.atWar st true
    else if st.hasFlag FACTION_FLAG_VISIBLE then ReputationMgr.atWar st false
    else st
  if rank.num ≤ ReputationRank.HOSTILE.num then ReputationMgr.atWar st true else st

/-- **A state that was saved and loaded again**: the default state is `d`, the saved one `st`. -/
structure Replayed (rank : ReputationRank) (d st st' : FactionState) : Prop where
  id : st'.ID = st.ID
  standing : st'.Standing = st.Standing
  flags : st'.Flags &&& savedFlags = st.Flags &&& savedFlags
  /-- War goes on, is declared with whoever is hostile, and not ended where the faction is not
  visible. -/
  war : st'.hasFlag FACTION_FLAG_AT_WAR = (st.hasFlag FACTION_FLAG_AT_WAR ||
    decide (rank.num ≤ ReputationRank.HOSTILE.num) && !st.hasFlag FACTION_FLAG_PEACE_FORCED ||
    d.hasFlag FACTION_FLAG_AT_WAR && !st.hasFlag FACTION_FLAG_VISIBLE)
  inactive : st'.hasFlag FACTION_FLAG_INACTIVE =
    (st.hasFlag FACTION_FLAG_INACTIVE || d.hasFlag FACTION_FLAG_INACTIVE)

theorem hasFlag_row (flag : BitVec 8) : st.row.hasFlag flag = st.hasFlag flag := by
  unfold ReputationRow.hasFlag FactionState.hasFlag FactionState.row
  rw [← BitVec.setWidth_and]
  generalize st.Flags &&& flag = flags
  revert flags
  decide

theorem savedFlags_congr (hfixed : st'.Flags &&& fixedFlags = st.Flags &&& fixedFlags)
    (hvisible : st'.hasFlag FACTION_FLAG_VISIBLE = st.hasFlag FACTION_FLAG_VISIBLE) :
    st'.Flags &&& savedFlags = st.Flags &&& savedFlags := by
  have hsplit (flags : BitVec 8) : flags &&& savedFlags = (flags &&& fixedFlags) |||
      if flags &&& FACTION_FLAG_VISIBLE != 0 then FACTION_FLAG_VISIBLE else 0 := by
    revert flags
    decide
  unfold FactionState.hasFlag at hvisible
  rw [hsplit, hsplit, hfixed, hvisible]

/-- A state on the way from the default to the saved state `st`, with what it has of war and
inactivity. -/
structure OnTheWay (st s : FactionState) (war inactive : Bool) : Prop where
  id : s.ID = st.ID
  standing : s.Standing = st.Standing
  fixed : s.Flags &&& fixedFlags = st.Flags &&& fixedFlags
  visible : s.hasFlag FACTION_FLAG_VISIBLE = st.hasFlag FACTION_FLAG_VISIBLE
  war : s.hasFlag FACTION_FLAG_AT_WAR = war
  inactive : s.hasFlag FACTION_FLAG_INACTIVE = inactive

variable {s : FactionState} {war inactive : Bool}

theorem OnTheWay.atWar (h : OnTheWay st s war inactive) (on : Bool) :
    OnTheWay st (ReputationMgr.atWar s on)
      (on && (war || !st.hasFlag FACTION_FLAG_PEACE_FORCED)) inactive where
  id := (atWar_ID on).trans h.id
  standing := (atWar_Standing on).trans h.standing
  fixed := (atWar_fixed on).trans h.fixed
  visible := (atWar_visible on).trans h.visible
  war := by
    have hpeace : s.hasFlag FACTION_FLAG_PEACE_FORCED = st.hasFlag FACTION_FLAG_PEACE_FORCED :=
      hasFlag_congr h.fixed (by decide)
    rw [atWar_atWar, h.war, hpeace]
  inactive := (atWar_inactive on).trans h.inactive

theorem FromDefault.onTheWay (h : FromDefault d st) :
    OnTheWay st (if st.hasFlag FACTION_FLAG_VISIBLE then
        ({ d with Standing := st.Standing } : FactionState).shown
      else { d with Standing := st.Standing })
      (d.hasFlag FACTION_FLAG_AT_WAR) (d.hasFlag FACTION_FLAG_INACTIVE) := by
  split_ifs with hvisible
  · refine ⟨shown_ID.trans h.id.symm, shown_Standing, shown_fixed.trans h.fixed.symm, ?_,
      shown_atWar, shown_inactive⟩
    rw [shown_visible, hvisible, Bool.or_eq_true, Bool.not_eq_true']
    exact h.visible hvisible
  · refine ⟨h.id.symm, rfl, h.fixed.symm, ?_, rfl, rfl⟩
    rw [Bool.eq_false_of_not_eq_true hvisible]
    exact Bool.eq_false_of_not_eq_true fun hd => hvisible (h.stays hd)

theorem FromDefault.replayInactive (h : FromDefault d st)
    (hs : OnTheWay st s war (d.hasFlag FACTION_FLAG_INACTIVE)) :
    OnTheWay st (if st.hasFlag FACTION_FLAG_INACTIVE then ReputationMgr.inactive s true else s)
      war (st.hasFlag FACTION_FLAG_INACTIVE || d.hasFlag FACTION_FLAG_INACTIVE) := by
  split_ifs with hinactive
  · refine ⟨(inactive_ID true).trans hs.id, (inactive_Standing true).trans hs.standing,
      (inactive_fixed true).trans hs.fixed, (inactive_visible true).trans hs.visible,
      (inactive_atWar true).trans hs.war, ?_⟩
    rw [inactive_inactive, hs.inactive, hs.visible, outOfSight_congr (hs.fixed.trans h.fixed),
      hinactive, Bool.true_or, Bool.true_and, Bool.or_eq_true, Bool.and_eq_true,
      Bool.not_eq_true']
    exact h.inactive hinactive
  · rw [Bool.eq_false_of_not_eq_true hinactive, Bool.false_or]
    exact hs

theorem FromDefault.replayWar (h : FromDefault d st)
    (hs : OnTheWay st s (d.hasFlag FACTION_FLAG_AT_WAR) inactive) :
    OnTheWay st (if st.hasFlag FACTION_FLAG_AT_WAR then ReputationMgr.atWar s true
      else if s.hasFlag FACTION_FLAG_VISIBLE then ReputationMgr.atWar s false else s)
      (st.hasFlag FACTION_FLAG_AT_WAR ||
        d.hasFlag FACTION_FLAG_AT_WAR && !st.hasFlag FACTION_FLAG_VISIBLE) inactive := by
  rw [hs.visible]
  split_ifs with hwar hvisible
  · have hs' := hs.atWar true
    have hpeace : st.hasFlag FACTION_FLAG_PEACE_FORCED = d.hasFlag FACTION_FLAG_PEACE_FORCED :=
      hasFlag_congr h.fixed (by decide)
    have hon : (true && (d.hasFlag FACTION_FLAG_AT_WAR ||
        !st.hasFlag FACTION_FLAG_PEACE_FORCED)) = true := by
      rw [hpeace, Bool.true_and, Bool.or_eq_true, Bool.not_eq_true']
      exact h.war hwar
    rw [hon] at hs'
    rw [hwar, Bool.true_or]
    exact hs'
  · rw [Bool.eq_false_of_not_eq_true hwar, hvisible, Bool.not_true, Bool.and_false]
    exact hs.atWar false
  · rw [Bool.eq_false_of_not_eq_true hwar, Bool.eq_false_of_not_eq_true hvisible, Bool.not_false,
      Bool.and_true]
    exact hs

theorem OnTheWay.replayed (h : OnTheWay st s (st.hasFlag FACTION_FLAG_AT_WAR ||
      d.hasFlag FACTION_FLAG_AT_WAR && !st.hasFlag FACTION_FLAG_VISIBLE)
    (st.hasFlag FACTION_FLAG_INACTIVE || d.hasFlag FACTION_FLAG_INACTIVE))
    (rank : ReputationRank) : Replayed rank d st
      (if rank.num ≤ ReputationRank.HOSTILE.num then ReputationMgr.atWar s true else s) := by
  split_ifs with hhostile
  · have hwar := h.atWar true
    refine ⟨hwar.id, hwar.standing, savedFlags_congr hwar.fixed hwar.visible, ?_,
      hwar.inactive⟩
    rw [hwar.war, decide_eq_true hhostile]
    cases st.hasFlag FACTION_FLAG_AT_WAR <;> cases st.hasFlag FACTION_FLAG_PEACE_FORCED <;> simp
  · refine ⟨h.id, h.standing, savedFlags_congr h.fixed h.visible, ?_, h.inactive⟩
    rw [h.war, decide_eq_false hhostile, Bool.false_and, Bool.or_false]

theorem FromDefault.replayed (h : FromDefault d st) (rank : ReputationRank) :
    Replayed rank d st (d.replayed st.row rank) := by
  unfold FactionState.replayed
  simp only [hasFlag_row]
  exact (h.replayWar (h.replayInactive h.onTheWay)).replayed rank

end Flags

/-! ## Setters and the factions that are stored -/

variable {tables : ReputationTables} {player : Character} {m m' : ReputationMgr} {k j : ℕ}
  {d st : FactionState} {f : FactionEntry}

/-- A setter of one faction, which leaves the others as they are. -/
def Sets (k : ℕ) (g : FactionState → FactionState) (m m' : ReputationMgr) : Prop :=
  ∀ j, m'._factions.find? j = if j = k then (m._factions.find? j).map g else m._factions.find? j

theorem Sets.refl (k : ℕ) (m : ReputationMgr) : Sets k (fun st => st) m m := by
  intro j
  rw [Option.map_id', ite_self]

variable {g g' : FactionState → FactionState} {s : Session} {rank : ReputationRank}
  {saved : ReputationMgr}

theorem Sets.trans {m'' : ReputationMgr} (h : Sets k g m m')
    (h' : Sets k g' m' m'') : Sets k (fun st => g' (g st)) m m'' := by
  intro j
  rw [h' j, h j]
  split_ifs
  · rw [Option.map_map]
    rfl
  · rfl

theorem sets_of_set (hk : m._factions.find? k = some st)
    (hm' : m'._factions = m._factions.set k (g st)) : Sets k g m m' := by
  intro j
  rw [hm', find?_set]
  split_ifs with hj
  · rw [hj, hk]
    rfl
  · rfl

theorem sets_of_none (hk : m._factions.find? k = none) :
    Sets k g m m := by
  intro j
  split_ifs with hj
  · rw [hj, hk]
    rfl
  · rfl

theorem sets_setVisible (hk : m._factions.find? k = some st) :
    Sets k FactionState.shown m (m.setVisible k st) := by
  have hsame (hshown : st.shown = st) : Sets k FactionState.shown m m := by
    intro j
    split_ifs with hj
    · rw [hj, hk, Option.map_some, hshown]
    · rfl
  unfold ReputationMgr.setVisible
  split_ifs with hnever hvisible
  · exact hsame (if_pos hnever)
  · exact hsame ((if_neg hnever).trans (if_pos hvisible))
  · refine sets_of_set hk ?_
    unfold FactionState.shown FactionState.neverShown
    rw [if_neg hnever, if_neg hvisible]

theorem sets_showFaction : Sets k FactionState.shown m (m.showFaction k) := by
  unfold showFaction
  cases hk : m._factions.find? k with
  | none => exact sets_of_none hk
  | some st => exact sets_setVisible hk

theorem sets_setInactive (on : Bool) : Sets k (inactive · on) m (m.SetInactive k on) := by
  unfold SetInactive
  cases hk : m._factions.find? k with
  | none => exact sets_of_none hk
  | some st => exact sets_of_set hk rfl

theorem sets_setWar (on : Bool) : Sets k (atWar · on) m (m.setWar k on) := by
  unfold setWar
  cases hk : m._factions.find? k with
  | none => exact sets_of_none hk
  | some st => exact sets_of_set hk rfl

theorem sets_warByRank (rank : ReputationRank) :
    Sets k (fun st => if rank.num ≤ ReputationRank.HOSTILE.num then atWar st true else st) m
      (m.warByRank k rank) := by
  unfold ReputationMgr.warByRank
  split_ifs
  · cases hk : m._factions.find? k with
    | none => exact sets_of_none hk
    | some st => exact sets_of_set hk rfl
  · exact Sets.refl k m

/-! ## Calls -/

/-- **Every stored faction comes from the default.** -/
def Follows (tables : ReputationTables) (player : Character) (m : ReputationMgr) : Prop :=
  ∀ k, Option.Rel FromDefault ((Initialize tables player)._factions.find? k)
    (m._factions.find? k)

theorem follows_opened : Follows tables player (Initialize tables player) := by
  intro k
  cases (Initialize tables player)._factions.find? k with
  | none => exact .none
  | some d => exact .some (.refl d)

theorem Follows.default (h : Follows tables player m) (hk : m._factions.find? k = some st) :
    ∃ d, (Initialize tables player)._factions.find? k = some d ∧ FromDefault d st := by
  have hrel := h k
  rw [hk] at hrel
  revert hrel
  cases (Initialize tables player)._factions.find? k with
  | none =>
    nofun
  | some d =>
    intro hrel
    cases hrel with
    | some hfrom => exact ⟨d, rfl, hfrom⟩

theorem Follows.none (h : Follows tables player m) (hk : m._factions.find? k = none) :
    (Initialize tables player)._factions.find? k = none := by
  have hrel := h k
  rw [hk] at hrel
  revert hrel
  cases (Initialize tables player)._factions.find? k with
  | none => exact fun _ => rfl
  | some d =>
    nofun

theorem Follows.sets (h : Follows tables player m)
    (hset : Sets k g m m') (hg : ∀ d st, FromDefault d st → FromDefault d (g st)) :
    Follows tables player m' := by
  intro j
  rw [hset j]
  split_ifs
  · have hj := h j
    revert hj
    cases (Initialize tables player)._factions.find? j <;> cases m._factions.find? j <;> intro hj
    · exact .none
    · cases hj
    · cases hj
    · cases hj with
      | some hfrom => exact .some (hg _ _ hfrom)
  · exact h j

theorem fromDefault_warByRank (rank : ReputationRank) (d st : FactionState)
    (h : FromDefault d st) : FromDefault d
      (if rank.num ≤ ReputationRank.HOSTILE.num then atWar st true else st) := by
  split_ifs
  · exact h.atWar true
  · exact h

theorem Follows.setOne (h : Follows tables player m) (f : FactionEntry) (standing : ℤ)
    (incremental : Bool) :
    Follows tables player (m.SetOneFactionReputation tables player f standing incremental) := by
  unfold SetOneFactionReputation
  cases hget : m.GetState f with
  | none => exact h
  | some faction =>
    obtain ⟨-, hk⟩ := mem_of_getState hget
    dsimp only
    generalize newStanding tables player f faction.Standing standing incremental = new
    generalize hst : ({ faction with Standing := new - GetBaseReputation player f } :
      FactionState) = st
    have hset : Sets (listId f)
        (fun st => { st with Standing := new - GetBaseReputation player f }) m
        { m with
          _factions := m._factions.set (listId f) st
          touched := listId f :: m.touched
          justSet := listId f :: m.justSet } := sets_of_set hk (hst ▸ rfl)
    have hstanding := h.sets hset fun d st hfrom => hfrom.standing _
    have hshown := hstanding.sets (sets_setVisible (find?_set_self _ _ _))
      fun _ _ h => h.shown
    exact hshown.sets (sets_warByRank _) (fromDefault_warByRank _)

/-- **Every call keeps** what comes from the default. -/
theorem Follows.step (h : Follows tables player m) (op : Op) :
    Follows tables player (step tables player m op) := by
  have hclear : Follows tables player { m with justSet := [] } := h
  unfold Reputation.step
  cases op with
  | setReputation faction standing incremental =>
    dsimp only
    cases hlookup : tables.sFactionStore.LookupEntry faction with
    | none => exact h
    | some f =>
      exact setReputation_invariant (fun _ f _ _ _ h => h.setOne f _ _) hclear
        (FactionStore.mem_of_lookupEntry hlookup) _ _
  | setOneFactionReputation faction standing incremental =>
    dsimp only
    cases tables.sFactionStore.LookupEntry faction with
    | none => exact h
    | some f => exact hclear.setOne f _ _
  | setVisible faction =>
    dsimp only
    cases tables.sFactionStore.LookupEntry faction with
    | none => exact h
    | some f =>
      dsimp only
      unfold SetVisible
      cases hget : GetState { m with justSet := [] } f with
      | none => exact h
      | some st =>
        exact hclear.sets (sets_setVisible (mem_of_getState hget).2) fun _ _ h => h.shown
  | setAtWar repListID on =>
    dsimp only
    unfold SetAtWar
    cases hk : m._factions.find? repListID with
    | none => exact h
    | some st =>
      dsimp only
      split
      · exact h
      · exact h.sets (sets_of_set hk rfl) fun _ _ h => h.atWar on
  | setInactive repListID on =>
    exact hclear.sets (sets_setInactive on) fun _ _ h => h.inactive_ on

/-! ## Sessions -/

/-- **What is known of a player's factions** until they are saved. -/
structure Session.Unsaved (tables : ReputationTables) (player : Character) (s : Session) :
    Prop where
  kept : CallKept tables player s.mgr
  follows : Follows tables player s.mgr
  needSave : ∀ k, s.needSave k = true

theorem callKept_opened (tables : ReputationTables) (player : Character) :
    CallKept tables player (Initialize tables player) := by
  refine callKept_of_kept (initially_kept tables player) ?_
  exact foldl_frame (·.justSet) (fun m f => justSet_initFaction m f) _ _

theorem unsaved_run (tables : ReputationTables) (player : Character) (ops : List Op) :
    (run (Session.call tables player) (Session.new tables player) ops).Unsaved tables player := by
  refine foldl_invariant (Session.Unsaved tables player) (fun s op _ h => ?_) ?_
  · refine ⟨callKept_step h.kept op, h.follows.step op, fun k => ?_⟩
    unfold Session.call
    dsimp only
    rw [h.needSave k, Bool.true_or, Bool.true_or]
  · exact ⟨callKept_opened tables player, follows_opened, fun _ => rfl⟩

/-! ## Saving -/

theorem nodup_saveToDB (s : Session) {table : List ReputationRow}
    (h : (table.map (·.faction)).Nodup) : ((s.SaveToDB table).map (·.faction)).Nodup := by
  refine foldl_invariant (fun table : List ReputationRow => (table.map (·.faction)).Nodup)
    (fun table e _ h => ?_) h
  unfold Session.saveFaction
  split_ifs
  · rw [List.map_append, List.map_singleton]
    refine List.Nodup.append (h.sublist (List.filter_sublist.map _)) (List.nodup_singleton _) ?_
    intro id hid hrow
    obtain ⟨row, hmem, rfl⟩ := List.mem_map.mp hid
    exact of_decide_eq_true (List.mem_filter.mp hmem).2 (List.mem_singleton.mp hrow)
  · exact h

theorem mem_saveFactions {needSave : ℕ → Bool} (hneed : ∀ k, needSave k = true)
    {entries : List (ℕ × FactionState)} (hids : (entries.map (·.2.row.faction)).Nodup)
    {table : List ReputationRow}
    (hnew : ∀ row ∈ table, ∀ e ∈ entries, row.faction ≠ e.2.row.faction) (row : ReputationRow) :
    row ∈ entries.foldl (Session.saveFaction needSave) table ↔
      row ∈ table ∨ ∃ e ∈ entries, e.2.row = row := by
  induction entries generalizing table with
  | nil => simp
  | cons e entries ih =>
    rw [List.map_cons, List.nodup_cons] at hids
    have hkeep : table.filter (fun row => row.faction ≠ e.2.row.faction) = table :=
      List.filter_eq_self.mpr fun row hrow =>
        decide_eq_true (hnew row hrow e List.mem_cons_self)
    have hturn : Session.saveFaction needSave table e = table ++ [e.2.row] := by
      unfold Session.saveFaction
      rw [if_pos (hneed e.1), hkeep]
    rw [List.foldl_cons, hturn, ih hids.2]
    · rw [List.mem_append, List.mem_singleton, List.exists_mem_cons_iff, or_assoc, eq_comm]
    · intro row hrow e' he'
      rcases List.mem_append.mp hrow with hrow | hrow
      · exact hnew row hrow e' (List.mem_cons_of_mem _ he')
      · rw [List.mem_singleton.mp hrow]
        exact fun heq => hids.1 (heq ▸ List.mem_map_of_mem he')

theorem ReputationMgr.Kept.nodup_rows (h : ReputationMgr.Kept tables player m)
    (hids : ∀ f ∈ tables.sFactionStore.rows, f.ID < 2 ^ 16) :
    (m._factions.entries.map (·.2.row.faction)).Nodup := by
  refine List.Nodup.map_on (fun e he e' he' heq => ?_) (List.Nodup.of_map _ m._factions.keys_nodup)
  obtain ⟨k, st⟩ := e
  obtain ⟨k', st'⟩ := e'
  have hk := mem_entries.mp he
  have hk' := mem_entries.mp he'
  obtain ⟨f, hf, hcan, hid, rfl⟩ := h.linked _ _ hk
  obtain ⟨f', hf', hcan', hid', rfl⟩ := h.linked _ _ hk'
  have hsame : f.ID = f'.ID := by
    change st.ID % 2 ^ 16 = st'.ID % 2 ^ 16 at heq
    rw [← hid, ← hid', Nat.mod_eq_of_lt (hids f hf), Nat.mod_eq_of_lt (hids f' hf')] at heq
    exact heq
  have hff : f = f' := List.inj_on_of_nodup_map tables.sFactionStore.id_nodup hf hf' hsame
  subst hff
  rw [Option.some.inj (hk.symm.trans hk')]

theorem Session.Unsaved.mem_saveToDB (h : s.Unsaved tables player)
    (hids : ∀ f ∈ tables.sFactionStore.rows, f.ID < 2 ^ 16) (row : ReputationRow) :
    row ∈ s.SaveToDB [] ↔ ∃ k st, s.mgr._factions.find? k = some st ∧ st.row = row := by
  unfold Session.SaveToDB
  rw [mem_saveFactions h.needSave (h.kept.1.nodup_rows hids)
    (fun _ hrow => absurd hrow List.not_mem_nil) row]
  simp only [List.not_mem_nil, false_or, Prod.exists, mem_entries]

/-! ## Loading a row -/

theorem Sets.congr (h : Sets k g m m')
    (hg : ∀ st, m._factions.find? k = some st → g st = g' st) : Sets k g' m m' := by
  intro j
  rw [h j]
  split_ifs with hj
  · subst hj
    cases hk : m._factions.find? j with
    | none => rfl
    | some st => exact congrArg some (hg st hk)
  · rfl

/-- A setter that keeps the books of a manager that is being loaded. -/
structure Loads (tables : ReputationTables) (player : Character) (k : ℕ)
    (g : FactionState → FactionState) (m m' : ReputationMgr) : Prop where
  kept : ReputationMgr.Kept tables player m'
  touched : m'.touched = []
  sets : Sets k g m m'

theorem Loads.trans {m'' : ReputationMgr}
    (h : Loads tables player k g m m') (h' : Loads tables player k g' m' m'') :
    Loads tables player k (fun st => g' (g st)) m m'' :=
  ⟨h'.kept, h'.touched, h.sets.trans h'.sets⟩

theorem Loads.congr (h : Loads tables player k g m m')
    (hg : ∀ st, m._factions.find? k = some st → g st = g' st) : Loads tables player k g' m m' :=
  ⟨h.kept, h.touched, h.sets.congr hg⟩

section

variable (h : ReputationMgr.Kept tables player m) (htouched : m.touched = [])
include h htouched

theorem Loads.refl (k : ℕ) : Loads tables player k (fun st => st) m m :=
  ⟨h, htouched, .refl k m⟩

theorem loads_showFaction : Loads tables player k FactionState.shown m (m.showFaction k) := by
  refine ⟨?_, ?_, sets_showFaction⟩
  · unfold showFaction
    cases hk : m._factions.find? k with
    | none => exact h
    | some st => exact h.setVisible hk
  · unfold showFaction
    cases m._factions.find? k with
    | none => exact htouched
    | some st =>
      dsimp only
      unfold ReputationMgr.setVisible
      split_ifs <;> exact htouched

theorem loads_setInactive (on : Bool) :
    Loads tables player k (inactive · on) m (m.SetInactive k on) := by
  refine ⟨?_, ?_, sets_setInactive on⟩
  · unfold SetInactive
    cases hk : m._factions.find? k with
    | none => exact h
    | some st => exact h.setFlags hk (inactive_ID on) (inactive_Standing on) (inactive_visible on)
  · unfold SetInactive
    cases m._factions.find? k <;> exact htouched

theorem loads_setWar (on : Bool) : Loads tables player k (atWar · on) m (m.setWar k on) := by
  refine ⟨?_, ?_, sets_setWar on⟩
  · unfold setWar
    cases hk : m._factions.find? k with
    | none => exact h
    | some st => exact h.atWar hk on
  · unfold setWar
    cases m._factions.find? k <;> exact htouched

theorem loads_warByRank (hk : m._factions.find? k = some st) (rank : ReputationRank) :
    Loads tables player k
      (fun st => if rank.num ≤ ReputationRank.HOSTILE.num then atWar st true else st) m
      (m.warByRank k rank) := by
  refine ⟨h.warByRank hk rank, ?_, sets_warByRank rank⟩
  unfold ReputationMgr.warByRank
  split_ifs
  · cases m._factions.find? k <;> exact htouched
  · exact htouched

theorem loads_standing (hf : f ∈ tables.sFactionStore.rows) (hcan : f.CanHaveReputation = true)
    (hk : m._factions.find? (listId f) = some d) (hfresh : d.Standing = 0) (standing : ℤ) :
    Loads tables player (listId f) (fun st => { st with Standing := standing }) m
      (({ m with
        _factions := m._factions.set (listId f)
          { (m._factions.find? (listId f)).getD ⟨0, 0, 0, 0⟩ with Standing := standing }
        }).UpdateRankCounters (ReputationToRank (GetBaseReputation player f))
          (ReputationToRank (GetBaseReputation player f + standing))) := by
  rw [hk, Option.getD_some]
  refine ⟨?_, htouched, sets_of_set hk rfl⟩
  have hbase := h.baseOf_eq hf hcan hk
  have hrank (least : ReputationRank) (s : ℤ) :
      hasRank tables player least { d with Standing := s } =
        decide (least.num ≤ (ReputationToRank (GetBaseReputation player f + s)).num) := by
    unfold hasRank stateRank reputation
    rw [hbase]
  have hold (least : ReputationRank) : hasRank tables player least d =
      decide (least.num ≤ (ReputationToRank (GetBaseReputation player f)).num) := by
    have hd : d = { d with Standing := 0 } := by rw [← hfresh]
    rw [hd, hrank, Int.add_zero]
  have hid : ({ d with Standing := standing } : FactionState).ID = d.ID := rfl
  refine h.set hk hid rfl ?_ ?_ ?_ (fun k' => .inl) fun hmem => ?_
  · rw [hold, hrank]
    exact countRank_toNat _ _ _ _
  · rw [hold, hrank]
    exact countRank_toNat _ _ _ _
  · rw [hold, hrank]
    exact countRank_toNat _ _ _ _
  · exact absurd (htouched ▸ hmem) List.not_mem_nil

theorem loads_replayWar (row : ReputationRow) :
    Loads tables player k
      (fun st => if row.hasFlag FACTION_FLAG_AT_WAR then atWar st true
        else if st.hasFlag FACTION_FLAG_VISIBLE then atWar st false else st) m
      (if row.hasFlag FACTION_FLAG_AT_WAR then m.setWar k true
        else if m.hasFlagAt k FACTION_FLAG_VISIBLE then m.setWar k false else m) := by
  by_cases hwar : row.hasFlag FACTION_FLAG_AT_WAR = true
  · simp only [if_pos hwar]
    exact loads_setWar h htouched true
  · simp only [if_neg hwar]
    by_cases hvisible : m.hasFlagAt k FACTION_FLAG_VISIBLE = true
    · rw [if_pos hvisible]
      refine (loads_setWar h htouched false).congr fun st hst => ?_
      unfold hasFlagAt at hvisible
      rw [hst] at hvisible
      exact (if_pos hvisible).symm
    · rw [if_neg hvisible]
      refine (Loads.refl h htouched k).congr fun st hst => ?_
      unfold hasFlagAt at hvisible
      rw [hst] at hvisible
      exact (if_neg hvisible).symm

theorem loads_ite (c : Bool) (hm' : Loads tables player k g m m') :
    Loads tables player k (fun st => if c then g st else st) m (if c then m' else m) := by
  cases c with
  | true => exact hm'
  | false => exact Loads.refl h htouched k

end

theorem getRank_eq (hcan : f.CanHaveReputation = true)
    (hk : m._factions.find? (listId f) = some st) :
    m.GetRank player f = ReputationToRank (GetBaseReputation player f + st.Standing) := by
  unfold GetRank GetReputation GetState
  rw [if_pos hcan, hk]

theorem Loads.find?_eq (h : Loads tables player k g m m')
    (hk : m._factions.find? k = some d) : m'._factions.find? k = some (g d) := by
  rw [h.sets k, if_pos rfl, hk]
  rfl

theorem Loads.warByGetRank
    (h : Loads tables player (listId f) g m m') (hcan : f.CanHaveReputation = true)
    (hk : m._factions.find? (listId f) = some d)
    (hrank : ReputationToRank (GetBaseReputation player f + (g d).Standing) = rank) :
    Loads tables player (listId f)
      (fun st => if rank.num ≤ ReputationRank.HOSTILE.num then atWar (g st) true else g st) m
      (m'.warByRank (listId f) (m'.GetRank player f)) := by
  have hk' := h.find?_eq hk
  rw [getRank_eq hcan hk', hrank]
  exact h.trans (loads_warByRank h.kept h.touched hk' rank)

theorem loads_replayRow (h : ReputationMgr.Kept tables player m) (htouched : m.touched = [])
    (hf : f ∈ tables.sFactionStore.rows) (hcan : f.CanHaveReputation = true)
    (hk : m._factions.find? (listId f) = some d) (hfresh : d.Standing = 0) (row : ReputationRow) :
    Loads tables player (listId f)
      (FactionState.replayed · row
        (ReputationToRank (GetBaseReputation player f + row.standing)))
      m (replayRow player m f row) := by
  have hstanding := loads_standing h htouched hf hcan hk hfresh row.standing
  have hvisible := hstanding.trans (loads_ite hstanding.kept hstanding.touched
    (row.hasFlag FACTION_FLAG_VISIBLE) (loads_showFaction hstanding.kept hstanding.touched))
  have hinactive := hvisible.trans (loads_ite hvisible.kept hvisible.touched
    (row.hasFlag FACTION_FLAG_INACTIVE)
    (loads_setInactive hvisible.kept hvisible.touched true))
  have hwar := hinactive.trans (loads_replayWar hinactive.kept hinactive.touched row)
  refine hwar.warByGetRank hcan hk ?_
  refine congrArg (fun s => ReputationToRank (GetBaseReputation player f + s)) ?_
  split_ifs <;> simp only [atWar_Standing, inactive_Standing, shown_Standing]

/-! ## Loading -/

theorem touched_initFaction (m : ReputationMgr) (f : FactionEntry) :
    (m.initFaction player f).touched = m.touched := by
  unfold initFaction
  by_cases hcan : f.ID ≠ 0 ∧ f.CanHaveReputation = true
  · rw [if_pos hcan]
    dsimp only [UpdateRankCounters]
    split <;> rfl
  · rw [if_neg hcan]

theorem opened_standing (hk : (Initialize tables player)._factions.find? k = some d) :
    d.Standing = 0 := by
  have hall : ∀ k d, (Initialize tables player)._factions.find? k = some d → d.Standing = 0 := by
    refine foldl_invariant (fun m : ReputationMgr => ∀ k d, m._factions.find? k = some d →
      d.Standing = 0) (fun m f _ h k d hk => ?_) fun k d hk => by cases hk
    by_cases hkf : k = listId f
    · unfold initFaction at hk
      split at hk
      · subst hkf
        rw [find?_set_self] at hk
        rw [← Option.some.inj hk]
      · exact h k d hk
    · rw [find?_initFaction_of_ne m f hkf] at hk
      exact h k d hk
  exact hall k d hk

theorem ReputationMgr.Kept.stateRank_eq (h : ReputationMgr.Kept tables player m)
    (hf : f ∈ tables.sFactionStore.rows) (hcan : f.CanHaveReputation = true)
    (hk : m._factions.find? (listId f) = some st) :
    stateRank tables player st = ReputationToRank (GetBaseReputation player f + st.Standing) := by
  unfold stateRank reputation
  rw [h.baseOf_eq hf hcan hk]

/-- **The invariant of the loading**: of the rows of the saved factions `saved`, those in `rows` are
still to come. -/
structure Loading (tables : ReputationTables) (player : Character) (saved : ReputationMgr)
    (rows : List ReputationRow) (m : ReputationMgr) : Prop where
  kept : ReputationMgr.Kept tables player m
  touched : m.touched = []
  none : ∀ k, saved._factions.find? k = none → m._factions.find? k = none
  toCome : ∀ k st, saved._factions.find? k = some st → st.row ∈ rows →
    m._factions.find? k = (Initialize tables player)._factions.find? k
  loaded : ∀ k st, saved._factions.find? k = some st → st.row ∉ rows →
    ∃ d st', (Initialize tables player)._factions.find? k = some d ∧
      m._factions.find? k = some st' ∧ Replayed (stateRank tables player st) d st st'

theorem Loading.turn {row : ReputationRow} {rows : List ReputationRow}
    (h : Loading tables player saved (row :: rows) s.mgr)
    (hsaved : ReputationMgr.Kept tables player saved) (hfollows : Follows tables player saved)
    (hids : ∀ f ∈ tables.sFactionStore.rows, f.ID < 2 ^ 16)
    (hrow : ∃ k st, saved._factions.find? k = some st ∧ st.row = row)
    (hnodup : ((row :: rows).map (·.faction)).Nodup) :
    Loading tables player saved rows (loadRow tables player s row).mgr := by
  obtain ⟨k, st, hk, rfl⟩ := hrow
  obtain ⟨f, hf, hcan, hid, rfl⟩ := hsaved.linked _ _ hk
  -- the row names the faction
  have hfaction : st.row.faction = f.ID := by
    rw [hid]
    exact Nat.mod_eq_of_lt (hid ▸ hids f hf)
  have hloadRow : (loadRow tables player s st.row).mgr = replayRow player s.mgr f st.row := by
    unfold loadRow
    rw [hfaction, FactionStore.lookupEntry_eq hf]
    exact congrArg Session.mgr (if_pos hcan)
  obtain ⟨d, hd, hfrom⟩ := hfollows.default hk
  have hnow := (h.toCome _ _ hk List.mem_cons_self).trans hd
  have hload := loads_replayRow h.kept h.touched hf hcan hnow (opened_standing hd) st.row
  rw [hloadRow]
  have hother (j : ℕ) (hj : j ≠ listId f) : (replayRow player s.mgr f st.row)._factions.find? j =
      s.mgr._factions.find? j := by
    rw [hload.sets j, if_neg hj]
  rw [List.map_cons, List.nodup_cons] at hnodup
  -- rows of other factions are other rows
  have hmem (j : ℕ) (st' : FactionState) (hj : saved._factions.find? j = some st')
      (hin : st'.row ∈ st.row :: rows) (hne : j ≠ listId f) : st'.row ∈ rows := by
    refine (List.mem_cons.mp hin).resolve_left fun heq => hne ?_
    obtain ⟨f', hf', hcan', hid', rfl⟩ := hsaved.linked _ _ hj
    have hsame : st'.ID % 2 ^ 16 = st.ID % 2 ^ 16 := congrArg ReputationRow.faction heq
    rw [← hid, ← hid', Nat.mod_eq_of_lt (hids f hf), Nat.mod_eq_of_lt (hids f' hf')] at hsame
    rw [List.inj_on_of_nodup_map tables.sFactionStore.id_nodup hf' hf hsame]
  refine ⟨hload.kept, hload.touched, fun j hj => ?_, fun j st' hj hin => ?_, fun j st' hj hin => ?_⟩
  · rw [hother j fun heq => by rw [heq, hk] at hj; cases hj]
    exact h.none j hj
  · by_cases hjf : j = listId f
    · subst hjf
      cases hk.symm.trans hj
      exact absurd (List.mem_map_of_mem hin) hnodup.1
    · rw [hother j hjf]
      exact h.toCome j st' hj (List.mem_cons_of_mem _ hin)
  · by_cases hjf : j = listId f
    · subst hjf
      cases hk.symm.trans hj
      refine ⟨d, _, hd, hload.find?_eq hnow, ?_⟩
      rw [hsaved.stateRank_eq hf hcan hk]
      exact hfrom.replayed _
    · rw [hother j hjf]
      exact h.loaded j st' hj fun hin' => hin (hmem j st' hj hin' hjf)

theorem loading_foldl {rows : List ReputationRow}
    (h : Loading tables player saved rows s.mgr) (hsaved : ReputationMgr.Kept tables player saved)
    (hfollows : Follows tables player saved) (hids : ∀ f ∈ tables.sFactionStore.rows, f.ID < 2 ^ 16)
    (hrows : ∀ row ∈ rows, ∃ k st, saved._factions.find? k = some st ∧ st.row = row)
    (hnodup : (rows.map (·.faction)).Nodup) :
    Loading tables player saved [] (rows.foldl (loadRow tables player) s).mgr := by
  induction rows generalizing s with
  | nil => exact h
  | cons row rows ih =>
    exact ih (h.turn hsaved hfollows hids (hrows row List.mem_cons_self) hnodup)
      (fun row' hrow' => hrows row' (List.mem_cons_of_mem _ hrow'))
      (List.nodup_cons.mp hnodup).2

/-- **A relog**: the factions `m'` that were loaded from the rows of `m`. -/
structure Relogged (tables : ReputationTables) (player : Character) (m m' : ReputationMgr) :
    Prop where
  /-- The same factions are stored, and what becomes of their states is said from the default. -/
  none : ∀ k, m._factions.find? k = none → m'._factions.find? k = none
  states : ∀ k st, m._factions.find? k = some st →
    ∃ d st', (Initialize tables player)._factions.find? k = some d ∧
      m'._factions.find? k = some st' ∧ Replayed (stateRank tables player st) d st st'
  visible : m'._visibleFactionCount = m._visibleFactionCount
  honored : m'._honoredFactionCount = m._honoredFactionCount
  revered : m'._reveredFactionCount = m._reveredFactionCount
  exalted : m'._exaltedFactionCount = m._exaltedFactionCount

theorem countP_values_congr {m m' : OrderedMap ℕ FactionState} {q : FactionState → Bool}
    (h : ∀ k, (m'.find? k).map q = (m.find? k).map q) :
    m'.values.countP q = m.values.countP q := by
  have hmap : m'.mapVals (fun _ => q) = m.mapVals fun _ => q := by
    refine ext_find? fun k => ?_
    rw [find?_mapVals, find?_mapVals, h k]
  have hvalues (m : OrderedMap ℕ FactionState) :
      m.values.countP q = (m.mapVals fun _ => q).values.countP id := by
    unfold OrderedMap.values OrderedMap.mapVals
    rw [List.map_map, List.countP_map, List.countP_map]
    rfl
  rw [hvalues, hvalues, hmap]

theorem Replayed.visible_eq {st' : FactionState} (h : Replayed rank d st st') :
    st'.hasFlag FACTION_FLAG_VISIBLE = st.hasFlag FACTION_FLAG_VISIBLE := by
  unfold FactionState.hasFlag
  have hsaved (flags : BitVec 8) :
      flags &&& FACTION_FLAG_VISIBLE = flags &&& savedFlags &&& FACTION_FLAG_VISIBLE := by
    rw [BitVec.and_assoc]
    rfl
  rw [hsaved st'.Flags, hsaved st.Flags, h.flags]

theorem Replayed.hasRank_eq {st' : FactionState}
    (h : Replayed rank d st st') (least : ReputationRank) :
    hasRank tables player least st' = hasRank tables player least st := by
  unfold hasRank stateRank reputation
  rw [h.id, h.standing]

theorem Loading.relogged (h : Loading tables player saved [] m)
    (hsaved : ReputationMgr.Kept tables player saved) : Relogged tables player saved m := by
  have hstates (k : ℕ) (st : FactionState) (hk : saved._factions.find? k = some st) :=
    h.loaded k st hk List.not_mem_nil
  have hcount (q : FactionState → Bool)
      (hq : ∀ rank d st st', Replayed rank d st st' → q st' = q st) :
      m._factions.values.countP q = saved._factions.values.countP q := by
    refine countP_values_congr fun k => ?_
    cases hk : saved._factions.find? k with
    | none => rw [h.none k hk]
    | some st =>
      obtain ⟨d, st', -, hst', hreplayed⟩ := hstates k st hk
      rw [hst', Option.map_some, Option.map_some, hq _ _ _ _ hreplayed]
  refine ⟨h.none, hstates, BitVec.eq_of_toNat_eq ?_, BitVec.eq_of_toNat_eq ?_,
    BitVec.eq_of_toNat_eq ?_, BitVec.eq_of_toNat_eq ?_⟩
  · rw [h.kept.visible, hsaved.visible]
    exact congrArg (· % 2 ^ 8) (hcount _ fun _ _ _ _ h => h.visible_eq)
  · rw [h.kept.honored, hsaved.honored]
    exact congrArg (· % 2 ^ 8) (hcount _ fun _ _ _ _ h => h.hasRank_eq _)
  · rw [h.kept.revered, hsaved.revered]
    exact congrArg (· % 2 ^ 8) (hcount _ fun _ _ _ _ h => h.hasRank_eq _)
  · rw [h.kept.exalted, hsaved.exalted]
    exact congrArg (· % 2 ^ 8) (hcount _ fun _ _ _ _ h => h.hasRank_eq _)

/-- **Relogging**: what was saved after any calls since `Initialize` is loaded, the rows in whatever
order the database returns them. -/
theorem relogged_run (tables : ReputationTables) (player : Character) (ops : List Op)
    (hids : ∀ f ∈ tables.sFactionStore.rows, f.ID < 2 ^ 16) {rows : List ReputationRow}
    (hrows : rows.Perm
      ((run (Session.call tables player) (Session.new tables player) ops).SaveToDB [])) :
    Relogged tables player (run (Session.call tables player) (Session.new tables player) ops).mgr
      (LoadFromDB tables player rows).mgr := by
  have hunsaved := unsaved_run tables player ops
  revert hrows hunsaved
  generalize run (Session.call tables player) (Session.new tables player) ops = s
  intro hrows hunsaved
  have hsaved := hunsaved.kept.1
  have hmem (row : ReputationRow) : row ∈ rows ↔
      ∃ k st, s.mgr._factions.find? k = some st ∧ st.row = row :=
    hrows.mem_iff.trans (hunsaved.mem_saveToDB hids row)
  have hnodup : (rows.map (·.faction)).Nodup :=
    (hrows.map _).nodup_iff.mpr (nodup_saveToDB s List.nodup_nil)
  have hstart : Loading tables player s.mgr rows (Session.new tables player).mgr := by
    refine ⟨initially_kept tables player, ?_, fun k hk => hunsaved.follows.none hk,
      fun _ _ _ _ => rfl, fun k st hk hnot => absurd ((hmem _).mpr ⟨k, st, hk, rfl⟩) hnot⟩
    exact foldl_frame (·.touched) (fun m f => touched_initFaction m f) _ _
  exact (loading_foldl hstart hsaved hunsaved.follows hids (fun row hrow => (hmem row).mp hrow)
    hnodup).relogged hsaved

/-! ## What is not the same -/

structure SameAfterRelog (m m' : ReputationMgr) : Prop where
  states : ∀ k, (m'._factions.find? k).map (fun st => (st.Standing, st.Flags)) =
    (m._factions.find? k).map fun st => (st.Standing, st.Flags)
  visible : m'._visibleFactionCount = m._visibleFactionCount
  honored : m'._honoredFactionCount = m._honoredFactionCount
  revered : m'._reveredFactionCount = m._reveredFactionCount
  exalted : m'._exaltedFactionCount = m._exaltedFactionCount

/-- A visible faction that hates everyone, and is at war. -/
def hatingFaction : FactionEntry :=
  { honoredFaction 0 with BaseRepValue := fun _ => -42000, ReputationFlags := fun _ => 3 }

def hatingFactions : ReputationTables where
  sFactionStore := {
    rows := [hatingFaction]
    id_nodup := by decide
    list_nodup := by decide }
  GetRepSpilloverTemplate := fun _ => none
  rate := 1

/-- The player has made peace with the faction: after the relog he is at war again. -/
theorem relogged_run_hatingFactions :
    Relogged hatingFactions human
      (run (Session.call hatingFactions human) (Session.new hatingFactions human)
        [.setAtWar 0 false]).mgr
      (LoadFromDB hatingFactions human [⟨1, 0, 1⟩]).mgr := by
  refine relogged_run hatingFactions human [.setAtWar 0 false] (by decide) ?_
  have hrows : (run (Session.call hatingFactions human) (Session.new hatingFactions human)
      [.setAtWar 0 false]).SaveToDB [] = [⟨1, 0, 1⟩] := by decide +kernel
  rw [hrows]

/-- **The flags are not always the same**: peace with a faction that hates the player is lost. -/
theorem not_sameAfterRelog :
    ¬ ∀ tables player ops rows, (∀ f ∈ tables.sFactionStore.rows, f.ID < 2 ^ 16) →
      rows.Perm
        ((run (Session.call tables player) (Session.new tables player) ops).SaveToDB []) →
      SameAfterRelog (run (Session.call tables player) (Session.new tables player) ops).mgr
        (LoadFromDB tables player rows).mgr := by
  intro h
  have hrows : (run (Session.call hatingFactions human) (Session.new hatingFactions human)
      [.setAtWar 0 false]).SaveToDB [] = [⟨1, 0, 1⟩] := by decide +kernel
  have hstates := (h hatingFactions human [.setAtWar 0 false] [⟨1, 0, 1⟩] (by decide)
    (by rw [hrows])).states 0
  exact absurd hstates (by decide +kernel)

end TeraCore.Reputation
