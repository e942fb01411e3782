import TeraCore.Reputation.ReputationMgr

/-!
# The books of reputation

A counter is changed by the old and the new rank of one faction at a time, so it is the number of
factions of that rank as far as eight bits can say it.

## Main results

* `reputationSound_run`: the books are right after every run
-/

namespace TeraCore.Reputation

open Commons OrderedMap

namespace FactionStore

variable {store : FactionStore} {f f' : FactionEntry}

theorem lookupEntry_eq (hf : f ∈ store.rows) : store.LookupEntry f.ID = some f := by
  unfold LookupEntry
  cases hfind : store.rows.find? fun f' => f'.ID = f.ID with
  | none =>
    have hnot := List.find?_eq_none.mp hfind f hf
    simp at hnot
  | some f' =>
    have hid : f'.ID = f.ID := by simpa using List.find?_some hfind
    rw [List.inj_on_of_nodup_map store.id_nodup (List.mem_of_find?_eq_some hfind) hf hid]

theorem mem_of_lookupEntry {id : ℕ} (h : store.LookupEntry id = some f) : f ∈ store.rows :=
  List.mem_of_find?_eq_some h

theorem eq_of_listId (hf : f ∈ store.rows) (hf' : f' ∈ store.rows)
    (hcan : f.CanHaveReputation = true) (hcan' : f'.CanHaveReputation = true)
    (hid : ReputationMgr.listId f = ReputationMgr.listId f') : f = f' := by
  refine List.inj_on_of_nodup_map store.list_nodup (List.mem_filter.mpr ⟨hf, hcan⟩)
    (List.mem_filter.mpr ⟨hf', hcan'⟩) ?_
  unfold FactionEntry.CanHaveReputation at hcan hcan'
  unfold ReputationMgr.listId at hid
  rw [decide_eq_true_eq] at hcan hcan'
  omega

end FactionStore

namespace ReputationMgr

variable {tables : ReputationTables} {player : Character} {m : ReputationMgr} {k : ℕ}
  {st st' : FactionState}

/-- The base of a faction that is stored with its id. -/
def baseOf (tables : ReputationTables) (player : Character) (id : ℕ) : ℤ :=
  ((tables.sFactionStore.LookupEntry id).map (GetBaseReputation player)).getD 0

/-- The reputation with a stored faction. -/
def reputation (tables : ReputationTables) (player : Character) (st : FactionState) : ℤ :=
  baseOf tables player st.ID + st.Standing

/-- The rank of a stored faction. -/
def stateRank (tables : ReputationTables) (player : Character) (st : FactionState) :
    ReputationRank :=
  ReputationToRank (reputation tables player st)

/-- Does a stored faction have at least this rank? -/
def hasRank (tables : ReputationTables) (player : Character) (least : ReputationRank)
    (st : FactionState) : Bool :=
  least.num ≤ (stateRank tables player st).num

/-- **The number of factions** that have at least a rank. -/
def rankCount (tables : ReputationTables) (player : Character) (m : ReputationMgr)
    (least : ReputationRank) : ℕ :=
  m._factions.values.countP (hasRank tables player least)

/-- **The number of visible factions.** -/
def visibleCount (m : ReputationMgr) : ℕ :=
  m._factions.values.countP (·.hasFlag FACTION_FLAG_VISIBLE)

/-- **The counters are the numbers of factions**, and what was set is within bounds. -/
structure Kept (tables : ReputationTables) (player : Character) (m : ReputationMgr) : Prop where
  linked : ∀ k st, m._factions.find? k = some st →
    ∃ f ∈ tables.sFactionStore.rows, f.CanHaveReputation = true ∧ f.ID = st.ID ∧ listId f = k
  visible : m._visibleFactionCount.toNat = m.visibleCount % 2 ^ 8
  honored : m._honoredFactionCount.toNat = rankCount tables player m .HONORED % 2 ^ 8
  revered : m._reveredFactionCount.toNat = rankCount tables player m .REVERED % 2 ^ 8
  exalted : m._exaltedFactionCount.toNat = rankCount tables player m .EXALTED % 2 ^ 8
  bounds : ∀ k ∈ m.touched, ∃ st, m._factions.find? k = some st ∧
    Reputation_Bottom ≤ reputation tables player st ∧ reputation tables player st ≤ Reputation_Cap

/-- A stored faction is at war when its rank is hostile or worse, unless peace is forced. -/
def AtWarByRank (tables : ReputationTables) (player : Character) (m : ReputationMgr) (k : ℕ) :
    Prop :=
  ∃ st, m._factions.find? k = some st ∧
    ((stateRank tables player st).num ≤ ReputationRank.HOSTILE.num →
      st.hasFlag FACTION_FLAG_AT_WAR = true ∨ st.hasFlag FACTION_FLAG_PEACE_FORCED = true)

/-! ## Bits -/

/-- One if something holds. -/
def one (b : Bool) : ℕ := if b then 1 else 0

theorem countRank_toNat (least old_rank new_rank : ReputationRank) (count : BitVec 8) :
    ((countRank least old_rank new_rank count).toNat + one (least.num ≤ old_rank.num)) % 2 ^ 8 =
      (count.toNat + one (least.num ≤ new_rank.num)) % 2 ^ 8 := by
  unfold countRank one
  simp only [decide_eq_true_eq]
  split_ifs <;> simp only [BitVec.toNat_add, BitVec.toNat_sub, BitVec.ofNat_eq_ofNat,
    BitVec.toNat_ofNat] <;> omega

theorem counter_step {count count' : BitVec 8} {n n' : ℕ} {b b' : Bool}
    (h : count.toNat = n % 2 ^ 8) (hn : n' + one b = n + one b')
    (hcount : (count'.toNat + one b) % 2 ^ 8 = (count.toNat + one b') % 2 ^ 8) :
    count'.toNat = n' % 2 ^ 8 := by
  omega

/-! ## A stored faction changes -/

section

variable (h : Kept tables player m) (hk : m._factions.find? k = some st)
include h hk

theorem Kept.set (hid : st'.ID = st.ID) {visible honored revered exalted : BitVec 8}
    {touched justSet : List ℕ}
    (hvisible : (visible.toNat + one (st.hasFlag FACTION_FLAG_VISIBLE)) % 2 ^ 8 =
      (m._visibleFactionCount.toNat + one (st'.hasFlag FACTION_FLAG_VISIBLE)) % 2 ^ 8)
    (hhonored : (honored.toNat + one (hasRank tables player .HONORED st)) % 2 ^ 8 =
      (m._honoredFactionCount.toNat + one (hasRank tables player .HONORED st')) % 2 ^ 8)
    (hrevered : (revered.toNat + one (hasRank tables player .REVERED st)) % 2 ^ 8 =
      (m._reveredFactionCount.toNat + one (hasRank tables player .REVERED st')) % 2 ^ 8)
    (hexalted : (exalted.toNat + one (hasRank tables player .EXALTED st)) % 2 ^ 8 =
      (m._exaltedFactionCount.toNat + one (hasRank tables player .EXALTED st')) % 2 ^ 8)
    (htouched : ∀ k' ∈ touched, k' ∈ m.touched ∨ k' = k)
    (hbounds : k ∈ touched → Reputation_Bottom ≤ reputation tables player st' ∧
      reputation tables player st' ≤ Reputation_Cap) :
    Kept tables player
      ⟨m._factions.set k st', visible, honored, revered, exalted, touched, justSet⟩ := by
  have hcount (q : FactionState → Bool) : (m._factions.set k st').values.countP q + one (q st) =
      m._factions.values.countP q + one (q st') := countP_values_set hk st' q
  refine ⟨fun k' st₁ hst₁ => ?_, counter_step h.visible (hcount _) hvisible,
    counter_step h.honored (hcount _) hhonored, counter_step h.revered (hcount _) hrevered,
    counter_step h.exalted (hcount _) hexalted, fun k' hk' => ?_⟩
  · rw [find?_set] at hst₁
    by_cases heq : k' = k
    · rw [if_pos heq] at hst₁
      rw [← Option.some.inj hst₁, hid, heq]
      exact h.linked k st hk
    · rw [if_neg heq] at hst₁
      exact h.linked k' st₁ hst₁
  · by_cases heq : k' = k
    · subst heq
      exact ⟨st', find?_set_self _ _ _, hbounds hk'⟩
    · obtain ⟨st₁, hst₁, hle⟩ := h.bounds k' ((htouched k' hk').resolve_right heq)
      exact ⟨st₁, by rw [find?_set_of_ne _ _ heq]; exact hst₁, hle⟩

theorem Kept.boundsOf (hmem : k ∈ m.touched) : Reputation_Bottom ≤ reputation tables player st ∧
      reputation tables player st ≤ Reputation_Cap := by
  obtain ⟨st₁, hst₁, hle⟩ := h.bounds k hmem
  rw [Option.some.inj (hk.symm.trans hst₁)]
  exact hle

theorem Kept.setFlags (hid : st'.ID = st.ID) (hstanding : st'.Standing = st.Standing)
    (hvisible : st'.hasFlag FACTION_FLAG_VISIBLE = st.hasFlag FACTION_FLAG_VISIBLE) :
    Kept tables player { m with _factions := m._factions.set k st' } := by
  have hsame : reputation tables player st' = reputation tables player st := by
    unfold reputation
    rw [hid, hstanding]
  have hrank (least : ReputationRank) :
      hasRank tables player least st' = hasRank tables player least st := by
    unfold hasRank stateRank
    rw [hsame]
  refine h.set hk hid ?_ ?_ ?_ ?_ (fun k' => .inl) fun hmem => ?_
  · rw [hvisible]
  · rw [hrank]
  · rw [hrank]
  · rw [hrank]
  · rw [hsame]
    exact h.boundsOf hk hmem

end

/-! ## The flags of a state -/

theorem atWar_ID (on : Bool) : (atWar st on).ID = st.ID := by
  unfold atWar
  split_ifs <;> rfl

theorem atWar_Standing (on : Bool) : (atWar st on).Standing = st.Standing := by
  unfold atWar
  split_ifs <;> rfl

theorem hasFlag_or (flags flag other : BitVec 8) (h : other &&& flag = 0) :
    (flags ||| other) &&& flag = flags &&& flag := by
  rw [BitVec.and_or_distrib_right, h]
  exact BitVec.or_zero

theorem hasFlag_and_not (flags flag other : BitVec 8) (h : ~~~other &&& flag = flag) :
    (flags &&& ~~~other) &&& flag = flags &&& flag := by
  rw [BitVec.and_assoc, h]

theorem atWar_visible (on : Bool) :
    (atWar st on).hasFlag FACTION_FLAG_VISIBLE = st.hasFlag FACTION_FLAG_VISIBLE := by
  unfold atWar FactionState.hasFlag
  split_ifs
  · rfl
  · simp only [hasFlag_or st.Flags FACTION_FLAG_VISIBLE FACTION_FLAG_AT_WAR (by decide)]
  · simp only [hasFlag_and_not st.Flags FACTION_FLAG_VISIBLE FACTION_FLAG_AT_WAR (by decide)]

theorem inactive_ID (on : Bool) : (inactive st on).ID = st.ID := by
  unfold inactive
  split_ifs <;> rfl

theorem inactive_Standing (on : Bool) : (inactive st on).Standing = st.Standing := by
  unfold inactive
  split_ifs <;> rfl

theorem inactive_visible (on : Bool) :
    (inactive st on).hasFlag FACTION_FLAG_VISIBLE = st.hasFlag FACTION_FLAG_VISIBLE := by
  unfold inactive
  split_ifs
  · rfl
  · unfold FactionState.hasFlag
    simp only [hasFlag_or st.Flags FACTION_FLAG_VISIBLE FACTION_FLAG_INACTIVE (by decide)]
  · unfold FactionState.hasFlag
    simp only [hasFlag_and_not st.Flags FACTION_FLAG_VISIBLE FACTION_FLAG_INACTIVE (by decide)]

theorem hasFlag_or_self (flags flag : BitVec 8) (h : flag != 0) :
    ((flags ||| flag) &&& flag != 0) = true := by
  have hself : (flags ||| flag) &&& flag = flag := by
    ext i
    simp only [BitVec.getElem_and, BitVec.getElem_or]
    cases flag[i] <;> simp
  rw [hself]
  exact h

theorem atWar_true : (atWar st true).hasFlag FACTION_FLAG_AT_WAR = true ∨
    (atWar st true).hasFlag FACTION_FLAG_PEACE_FORCED = true := by
  unfold atWar
  by_cases hpeace : st.hasFlag FACTION_FLAG_PEACE_FORCED = true
  · rw [if_pos (by simpa using hpeace)]
    exact .inr hpeace
  · rw [if_neg (by simpa using hpeace), if_pos rfl]
    exact .inl (hasFlag_or_self _ _ (by decide))

/-! ## A call on one faction -/

theorem Kept.setVisible (h : Kept tables player m) (hk : m._factions.find? k = some st) :
    Kept tables player (m.setVisible k st) := by
  unfold ReputationMgr.setVisible
  split_ifs with hhidden hvisible
  · exact h
  · exact h
  · have hid : ({ st with Flags := st.Flags ||| FACTION_FLAG_VISIBLE } : FactionState).ID = st.ID :=
      rfl
    have hbounds := h.boundsOf hk
    refine h.set hk hid ?_ rfl rfl rfl (fun k' => .inl) hbounds
    have hnow : (st.Flags ||| FACTION_FLAG_VISIBLE) &&& FACTION_FLAG_VISIBLE != 0 :=
      hasFlag_or_self _ _ (by decide)
    have hone : (m._visibleFactionCount + 1).toNat % 2 ^ 8 =
        (m._visibleFactionCount.toNat + 1) % 2 ^ 8 := by
      rw [BitVec.toNat_add]
      exact Nat.mod_mod _ _
    unfold FactionState.hasFlag at hvisible ⊢
    rw [hnow, Bool.eq_false_of_not_eq_true hvisible]
    exact hone

theorem find?_setVisible (hk : m._factions.find? k = some st) :
    ∃ st', (m.setVisible k st)._factions.find? k = some st' ∧ st'.ID = st.ID ∧
      st'.Standing = st.Standing := by
  unfold ReputationMgr.setVisible
  split_ifs
  · exact ⟨st, hk, rfl, rfl⟩
  · exact ⟨st, hk, rfl, rfl⟩
  · exact ⟨_, find?_set_self _ _ _, rfl, rfl⟩

theorem find?_setVisible_of_ne {k' : ℕ} (hne : k' ≠ k) :
    (m.setVisible k st)._factions.find? k' = m._factions.find? k' := by
  unfold ReputationMgr.setVisible
  split_ifs
  · rfl
  · rfl
  · exact find?_set_of_ne _ _ hne

theorem justSet_setVisible : (m.setVisible k st).justSet = m.justSet := by
  unfold ReputationMgr.setVisible
  split_ifs <;> rfl

theorem Kept.atWar (h : Kept tables player m) (hk : m._factions.find? k = some st) (on : Bool) :
    Kept tables player { m with _factions := m._factions.set k (atWar st on) } :=
  h.setFlags hk (atWar_ID on) (atWar_Standing on) (atWar_visible on)

theorem Kept.warByRank (h : Kept tables player m) (hk : m._factions.find? k = some st)
    (new_rank : ReputationRank) : Kept tables player (m.warByRank k new_rank) := by
  unfold ReputationMgr.warByRank
  by_cases hrank : new_rank.num ≤ ReputationRank.HOSTILE.num
  · rw [if_pos hrank, hk]
    exact h.atWar hk true
  · rw [if_neg hrank]
    exact h

theorem find?_warByRank_of_ne (new_rank : ReputationRank) {k' : ℕ} (hne : k' ≠ k) :
    (m.warByRank k new_rank)._factions.find? k' = m._factions.find? k' := by
  unfold ReputationMgr.warByRank
  split
  · cases m._factions.find? k with
    | none => rfl
    | some faction => exact find?_set_of_ne _ _ hne
  · rfl

theorem justSet_warByRank (new_rank : ReputationRank) :
    (m.warByRank k new_rank).justSet = m.justSet := by
  unfold ReputationMgr.warByRank
  split
  · cases m._factions.find? k <;> rfl
  · rfl

theorem atWarByRank_warByRank {new_rank : ReputationRank} (hk : m._factions.find? k = some st)
    (hnew : stateRank tables player st = new_rank) :
    AtWarByRank tables player (m.warByRank k new_rank) k := by
  unfold ReputationMgr.warByRank
  by_cases hrank : new_rank.num ≤ ReputationRank.HOSTILE.num
  · rw [if_pos hrank, hk]
    exact ⟨_, find?_set_self _ _ _, fun _ => atWar_true⟩
  · rw [if_neg hrank]
    exact ⟨st, hk, fun hle => absurd (hnew ▸ hle) hrank⟩

/-! ## Standings -/

theorem mem_of_getState {f : FactionEntry} (h : m.GetState f = some st) :
    f.CanHaveReputation = true ∧ m._factions.find? (listId f) = some st := by
  unfold GetState at h
  split at h
  · exact ⟨‹_›, h⟩
  · cases h

theorem newStanding_bounds (f : FactionEntry) (old standing : ℤ) (incremental : Bool) :
    Reputation_Bottom ≤ newStanding tables player f old standing incremental ∧
      newStanding tables player f old standing incremental ≤ Reputation_Cap := by
  have hle : Reputation_Bottom ≤ Reputation_Cap := by decide
  unfold newStanding
  split_ifs <;> dsimp only <;> omega

theorem Kept.baseOf_eq (h : Kept tables player m) {f : FactionEntry}
    (hf : f ∈ tables.sFactionStore.rows) (hcan : f.CanHaveReputation = true)
    (hk : m._factions.find? (listId f) = some st) :
    baseOf tables player st.ID = GetBaseReputation player f := by
  obtain ⟨f', hf', hcan', hid, hlist⟩ := h.linked _ _ hk
  have hsame : f' = f := FactionStore.eq_of_listId hf' hf hcan' hcan hlist
  unfold baseOf
  rw [← hid, hsame, FactionStore.lookupEntry_eq hf]
  rfl

theorem updateRankCounters_setVisible (old_rank new_rank : ReputationRank) :
    (m.setVisible k st).UpdateRankCounters old_rank new_rank =
      (m.UpdateRankCounters old_rank new_rank).setVisible k st := by
  unfold ReputationMgr.setVisible
  split_ifs <;> rfl

theorem updateRankCounters_warByRank (old_rank new_rank rank : ReputationRank) :
    (m.warByRank k rank).UpdateRankCounters old_rank new_rank =
      (m.UpdateRankCounters old_rank new_rank).warByRank k rank := by
  unfold ReputationMgr.warByRank
  split_ifs
  · have hfactions : (m.UpdateRankCounters old_rank new_rank)._factions = m._factions := rfl
    rw [hfactions]
    cases m._factions.find? k <;> rfl
  · rfl

/-- **The invariant of a call**: the books are kept, and war is declared with what was set. -/
def CallKept (tables : ReputationTables) (player : Character) (m : ReputationMgr) : Prop :=
  Kept tables player m ∧ ∀ k ∈ m.justSet, AtWarByRank tables player m k

theorem AtWarByRank.of_find?_eq {m' : ReputationMgr} (h : AtWarByRank tables player m k)
    (heq : m'._factions.find? k = m._factions.find? k) : AtWarByRank tables player m' k := by
  obtain ⟨st, hst, hwar⟩ := h
  exact ⟨st, heq.trans hst, hwar⟩

theorem CallKept.setOne (h : CallKept tables player m) {f : FactionEntry}
    (hf : f ∈ tables.sFactionStore.rows) (standing : ℤ) (incremental : Bool) :
    CallKept tables player (m.SetOneFactionReputation tables player f standing incremental) := by
  unfold SetOneFactionReputation
  cases hget : m.GetState f with
  | none => exact h
  | some faction =>
    obtain ⟨hcan, hk⟩ := mem_of_getState hget
    have hbase := h.1.baseOf_eq hf hcan hk
    dsimp only
    generalize hnew : newStanding tables player f faction.Standing standing incremental = new
    have hbounds : Reputation_Bottom ≤ new ∧ new ≤ Reputation_Cap :=
      hnew ▸ newStanding_bounds f faction.Standing standing incremental
    generalize hst : ({ faction with Standing := new - GetBaseReputation player f } :
      FactionState) = st
    have hid : st.ID = faction.ID := by rw [← hst]
    have hrep : reputation tables player st = new := by
      unfold reputation
      rw [hid, hbase, ← hst]
      show GetBaseReputation player f + (new - GetBaseReputation player f) = new
      omega
    have hold : ReputationToRank (faction.Standing + GetBaseReputation player f) =
        stateRank tables player faction := by
      unfold stateRank reputation
      rw [hbase, Int.add_comm]
    have hrank : ReputationToRank new = stateRank tables player st := by
      unfold stateRank
      rw [hrep]
    rw [updateRankCounters_warByRank, updateRankCounters_setVisible, hold, hrank]
    -- the state and the counters are changed first
    generalize hm₁ : ReputationMgr.UpdateRankCounters _ _ _ = m₁
    have hfind (k' : ℕ) : m₁._factions.find? k' = if k' = listId f then some st else
        m._factions.find? k' := by
      rw [← hm₁]
      exact find?_set _ _ _ _
    have hset : m₁._factions.find? (listId f) = some st := by rw [hfind, if_pos rfl]
    have hkept : Kept tables player m₁ := by
      rw [← hm₁]
      refine h.1.set hk hid ?_ (countRank_toNat _ _ _ _) (countRank_toNat _ _ _ _)
        (countRank_toNat _ _ _ _) (fun k' hk' => (List.mem_cons.mp hk').symm) fun _ => ?_
      · rw [← hst]
        rfl
      · rw [hrep]
        exact hbounds
    obtain ⟨st', hst', hid', hstanding'⟩ := find?_setVisible hset
    have hrank' : stateRank tables player st' = stateRank tables player st := by
      unfold stateRank reputation
      rw [hid', hstanding']
    refine ⟨(hkept.setVisible hset).warByRank hst' _, fun k' hk' => ?_⟩
    by_cases heq : k' = listId f
    · rw [heq]
      exact atWarByRank_warByRank hst' hrank'
    · rw [justSet_warByRank, justSet_setVisible, ← hm₁] at hk'
      have hk'' : k' ∈ m.justSet := (List.mem_cons.mp hk').resolve_left heq
      refine (h.2 k' hk'').of_find?_eq ?_
      rw [find?_warByRank_of_ne _ heq, find?_setVisible_of_ne heq, hfind, if_neg heq]

/-! ## A call -/

section Invariant

variable {Inv : ReputationMgr → Prop}
  (hone : ∀ m, ∀ f ∈ tables.sFactionStore.rows, ∀ standing incremental, Inv m →
    Inv (SetOneFactionReputation tables player m f standing incremental))

include hone

theorem spillTemplate_invariant (h : Inv m) (standing : ℤ) (incremental : Bool)
    (s : SpilloverFaction) : Inv (spillTemplate tables player standing incremental m s) := by
  unfold spillTemplate
  split_ifs
  · cases hlookup : tables.sFactionStore.LookupEntry s.faction with
    | none => exact h
    | some f => exact hone m f (FactionStore.mem_of_lookupEntry hlookup) _ _ h
  · exact h

theorem spillTeam_invariant (h : Inv m) (factionEntry : FactionEntry) (spillOverRepOut : ℚ)
    (incremental : Bool) (id : ℕ) :
    Inv (spillTeam tables player factionEntry spillOverRepOut incremental m id) := by
  unfold spillTeam
  cases hlookup : tables.sFactionStore.LookupEntry id with
  | none => exact h
  | some f =>
    dsimp only
    split_ifs
    · exact h
    · exact hone m f (FactionStore.mem_of_lookupEntry hlookup) _ _ h
    · exact h

theorem foldl_spillTeam_invariant (h : Inv m) (factionEntry : FactionEntry) (spillOverRepOut : ℚ)
    (incremental : Bool) (flist : List ℕ) :
    Inv (flist.foldl (spillTeam tables player factionEntry spillOverRepOut incremental) m) :=
  foldl_invariant Inv
    (fun _ id _ h => spillTeam_invariant hone h factionEntry spillOverRepOut incremental id) h

theorem spillover_invariant (h : Inv m) (f : FactionEntry) (standing : ℤ) (incremental : Bool) :
    Inv (spillover tables player m f standing incremental) := by
  unfold spillover
  cases tables.sFactionStore.GetFactionTeamList f.ID with
  | some flist => exact foldl_spillTeam_invariant hone h _ _ _ _
  | none =>
    by_cases hteam : f.team ≠ 0 ∧ f.spilloverRateOut ≠ 0
    · rw [if_pos hteam]
      cases hlookup : tables.sFactionStore.LookupEntry f.team with
      | none => exact h
      | some parent =>
        dsimp only
        split_ifs
        · exact hone m parent (FactionStore.mem_of_lookupEntry hlookup) _ _ h
        · exact foldl_spillTeam_invariant hone h _ _ _ _
    · rw [if_neg hteam]
      exact h

/-- **What the setting of one reputation keeps, `SetReputation` keeps**, whichever of the tables
says where it spills over. -/
theorem setReputation_invariant (h : Inv m) {f : FactionEntry}
    (hf : f ∈ tables.sFactionStore.rows) (standing : ℤ) (incremental : Bool) :
    Inv (SetReputation tables player m f standing incremental) := by
  refine hone _ f hf standing incremental ?_
  cases tables.GetRepSpilloverTemplate f.ID with
  | none => exact spillover_invariant hone h f standing incremental
  | some repTemplate =>
    exact foldl_invariant Inv
      (fun _ i _ h => spillTemplate_invariant hone h standing incremental (repTemplate i)) h

end Invariant

theorem callKept_of_kept (h : Kept tables player m) (hjust : m.justSet = []) :
    CallKept tables player m :=
  ⟨h, fun _ hk => absurd (hjust ▸ hk) List.not_mem_nil⟩

theorem Kept.clear (h : Kept tables player m) : Kept tables player { m with justSet := [] } :=
  ⟨h.linked, h.visible, h.honored, h.revered, h.exalted, h.bounds⟩

end ReputationMgr

open ReputationMgr

variable {tables : ReputationTables} {player : Character} {m : ReputationMgr}

/-- **Every call keeps the books.** -/
theorem callKept_step (h : CallKept tables player m) (op : Op) :
    CallKept tables player (step tables player m op) := by
  have hkept := h.1.clear
  have hclear : CallKept tables player { m with justSet := [] } := callKept_of_kept hkept rfl
  cases op with
  | setReputation faction standing incremental =>
    unfold step
    dsimp only
    cases hlookup : tables.sFactionStore.LookupEntry faction with
    | none => exact hclear
    | some f =>
      exact setReputation_invariant (fun _ _ hf _ _ h => h.setOne hf _ _) hclear
        (FactionStore.mem_of_lookupEntry hlookup) _ _
  | setOneFactionReputation faction standing incremental =>
    unfold step
    dsimp only
    cases hlookup : tables.sFactionStore.LookupEntry faction with
    | none => exact hclear
    | some f => exact hclear.setOne (FactionStore.mem_of_lookupEntry hlookup) _ _
  | setVisible faction =>
    unfold step
    dsimp only
    cases hlookup : tables.sFactionStore.LookupEntry faction with
    | none => exact hclear
    | some f =>
      dsimp only
      unfold SetVisible
      cases hget : GetState { m with justSet := [] } f with
      | none => exact hclear
      | some st =>
        exact callKept_of_kept (hkept.setVisible (mem_of_getState hget).2) justSet_setVisible
  | setAtWar repListID on =>
    unfold step SetAtWar
    dsimp only
    cases hk : m._factions.find? repListID with
    | none => exact hclear
    | some st =>
      dsimp only
      split
      · exact hclear
      · exact callKept_of_kept (hkept.atWar hk on) rfl
  | setInactive repListID on =>
    unfold step SetInactive
    dsimp only
    cases hk : m._factions.find? repListID with
    | none => exact hclear
    | some st =>
      exact callKept_of_kept (hkept.setFlags hk (inactive_ID on) (inactive_Standing on)
        (inactive_visible on)) rfl

/-! ## The first books -/

theorem ReputationMgr.countVisible_eq (m : ReputationMgr) (st : FactionState) :
    ∃ visible, (visible.toNat + one false) % 2 ^ 8 =
        (m._visibleFactionCount.toNat + one (st.hasFlag FACTION_FLAG_VISIBLE)) % 2 ^ 8 ∧
      (if st.hasFlag FACTION_FLAG_VISIBLE then
        { m with _visibleFactionCount := m._visibleFactionCount + 1 } else m) =
          { m with _visibleFactionCount := visible } := by
  cases st.hasFlag FACTION_FLAG_VISIBLE with
  | false => exact ⟨_, rfl, rfl⟩
  | true =>
    refine ⟨m._visibleFactionCount + 1, ?_, rfl⟩
    show (m._visibleFactionCount + 1).toNat % 2 ^ 8 = _
    rw [BitVec.toNat_add]
    exact Nat.mod_mod _ _

theorem ReputationMgr.find?_initFaction_of_ne (m : ReputationMgr) (f : FactionEntry) {k : ℕ}
    (hne : k ≠ listId f) :
    (m.initFaction player f)._factions.find? k = m._factions.find? k := by
  unfold ReputationMgr.initFaction
  by_cases hcan : f.ID ≠ 0 ∧ f.CanHaveReputation = true
  · rw [if_pos hcan]
    refine (find?_set_of_ne _ _ hne).trans ?_
    split <;> rfl
  · rw [if_neg hcan]

theorem ReputationMgr.justSet_initFaction (m : ReputationMgr) (f : FactionEntry) :
    (m.initFaction player f).justSet = m.justSet := by
  unfold ReputationMgr.initFaction
  by_cases hcan : f.ID ≠ 0 ∧ f.CanHaveReputation = true
  · rw [if_pos hcan]
    dsimp only [UpdateRankCounters]
    split <;> rfl
  · rw [if_neg hcan]

theorem ReputationMgr.Kept.initFaction (h : Kept tables player m) {f : FactionEntry}
    (hf : f ∈ tables.sFactionStore.rows)
    (hnone : f.CanHaveReputation = true → m._factions.find? (listId f) = none) :
    Kept tables player (m.initFaction player f) := by
  unfold ReputationMgr.initFaction
  by_cases hcan : f.ID ≠ 0 ∧ f.CanHaveReputation = true
  · rw [if_pos hcan]
    have hnone := hnone hcan.2
    dsimp only
    generalize hst : (⟨f.ID, listId f, 0, GetDefaultStateFlags player f⟩ : FactionState) = st
    have hcount (q : FactionState → Bool) :
        (m._factions.set (listId f) st).values.countP q + one false =
          m._factions.values.countP q + one (q st) :=
      countP_values_set_of_none hnone st q
    have hrank : GetBaseRank player f = stateRank tables player st := by
      unfold stateRank reputation baseOf
      rw [← hst, FactionStore.lookupEntry_eq hf]
      exact congrArg ReputationToRank (Int.add_zero _).symm
    obtain ⟨visible, hvisible, hm₁⟩ := countVisible_eq m st
    have hflags : (GetDefaultStateFlags player f &&& FACTION_FLAG_VISIBLE != 0) =
        st.hasFlag FACTION_FLAG_VISIBLE := by
      rw [← hst]
      rfl
    rw [hflags, hm₁, hrank]
    refine ⟨fun k st' hst' => ?_, counter_step h.visible (hcount _) hvisible,
      counter_step h.honored (hcount _) (countRank_toNat _ .HOSTILE _ _),
      counter_step h.revered (hcount _) (countRank_toNat _ .HOSTILE _ _),
      counter_step h.exalted (hcount _) (countRank_toNat _ .HOSTILE _ _), fun k hk => ?_⟩
    · rw [find?_set] at hst'
      by_cases heq : k = listId f
      · rw [if_pos heq, ← hst] at hst'
        exact ⟨f, hf, hcan.2, by rw [← Option.some.inj hst'], heq.symm⟩
      · rw [if_neg heq] at hst'
        exact h.linked k st' hst'
    · obtain ⟨st', hst', hle⟩ := h.bounds k hk
      have hne : k ≠ listId f := fun heq => by
        rw [heq, hnone] at hst'
        cases hst'
      exact ⟨st', by rw [find?_set_of_ne _ _ hne]; exact hst', hle⟩
  · rw [if_neg hcan]
    exact h

theorem ReputationMgr.kept_foldl_initFaction {fs : List FactionEntry}
    (hsub : ∀ f ∈ fs, f ∈ tables.sFactionStore.rows) (hnodup : fs.Nodup)
    (hnone : ∀ f ∈ fs, f.CanHaveReputation = true → m._factions.find? (listId f) = none)
    (h : Kept tables player m) : Kept tables player (fs.foldl (initFaction player) m) := by
  induction fs generalizing m with
  | nil => exact h
  | cons f fs ih =>
    have hf := hsub f List.mem_cons_self
    have hfs (f' : FactionEntry) (hf' : f' ∈ fs) := hsub f' (List.mem_cons_of_mem _ hf')
    refine ih hfs hnodup.of_cons (fun f' hf' hcan' => ?_)
      (h.initFaction hf (hnone f List.mem_cons_self))
    by_cases hcan : f.CanHaveReputation = true
    · have hne : listId f' ≠ listId f := fun heq => by
        have hsame := FactionStore.eq_of_listId (hfs f' hf') hf hcan' hcan heq
        exact (List.nodup_cons.mp hnodup).1 (hsame ▸ hf')
      rw [find?_initFaction_of_ne m f hne]
      exact hnone f' (List.mem_cons_of_mem _ hf') hcan'
    · unfold ReputationMgr.initFaction
      rw [if_neg fun hboth => hcan hboth.2]
      exact hnone f' (List.mem_cons_of_mem _ hf') hcan'

variable (tables player)

/-- **The books that `Initialize` opens.** -/
theorem ReputationMgr.initially_kept : Kept tables player (Initialize tables player) := by
  refine kept_foldl_initFaction (fun f hf => hf)
    (List.Nodup.of_map _ tables.sFactionStore.id_nodup) (fun f _ _ => find?_empty _) ?_
  refine ⟨fun k st hst => ?_, rfl, rfl, rfl, rfl, fun k hk => absurd hk List.not_mem_nil⟩
  cases hst

/-! ## Runs -/

/-- The counters show the numbers of factions. -/
structure Counters (tables : ReputationTables) (player : Character) (m : ReputationMgr)
    (shown : ℕ → ℕ) : Prop where
  visible : m._visibleFactionCount.toNat = shown m.visibleCount
  honored : m._honoredFactionCount.toNat = shown (rankCount tables player m .HONORED)
  revered : m._reveredFactionCount.toNat = shown (rankCount tables player m .REVERED)
  exalted : m._exaltedFactionCount.toNat = shown (rankCount tables player m .EXALTED)

/-- **The books of a run**: the calls `ops` were made since `Initialize`. -/
structure ReputationSound (tables : ReputationTables) (player : Character) (ops : List Op) :
    Prop where
  /-- What was set is within bounds. -/
  bounds : ∀ k ∈ (run (step tables player) (Initialize tables player) ops).touched,
    ∃ st, (run (step tables player) (Initialize tables player) ops)._factions.find? k = some st ∧
      Reputation_Bottom ≤ reputation tables player st ∧
      reputation tables player st ≤ Reputation_Cap
  /-- The counters are the numbers of factions modulo `2 ^ 8`. -/
  counters : Counters tables player (run (step tables player) (Initialize tables player) ops)
    (· % 2 ^ 8)
  /-- They are the numbers themselves as long as there are fewer factions. -/
  exact_of_lt : (run (step tables player) (Initialize tables player) ops)._factions.size < 2 ^ 8 →
    Counters tables player (run (step tables player) (Initialize tables player) ops) id
  /-- War is declared with what the last call set. -/
  war : ∀ k ∈ (run (step tables player) (Initialize tables player) ops).justSet,
    AtWarByRank tables player (run (step tables player) (Initialize tables player) ops) k

theorem ReputationMgr.Kept.counters (h : Kept tables player m) :
    Counters tables player m (· % 2 ^ 8) :=
  ⟨h.visible, h.honored, h.revered, h.exalted⟩

theorem countP_mod_eq {q : FactionState → Bool} (hlt : m._factions.size < 2 ^ 8) :
    m._factions.values.countP q % 2 ^ 8 = m._factions.values.countP q := by
  refine Nat.mod_eq_of_lt (lt_of_le_of_lt (List.countP_le_length) ?_)
  exact lt_of_eq_of_lt (List.length_map _) hlt

theorem ReputationMgr.Kept.counters_of_lt (h : Kept tables player m)
    (hlt : m._factions.size < 2 ^ 8) : Counters tables player m id :=
  ⟨h.visible.trans (countP_mod_eq hlt), h.honored.trans (countP_mod_eq hlt),
    h.revered.trans (countP_mod_eq hlt), h.exalted.trans (countP_mod_eq hlt)⟩

/-- **The books of reputation are right after every run** of calls. -/
theorem reputationSound_run (ops : List Op) : ReputationSound tables player ops := by
  have hinit : CallKept tables player (Initialize tables player) := by
    refine callKept_of_kept (initially_kept tables player) ?_
    exact foldl_frame (·.justSet) (fun m f => justSet_initFaction m f) _ _
  have hrun : CallKept tables player (run (step tables player) (Initialize tables player) ops) :=
    foldl_invariant (CallKept tables player) (fun m op _ h => callKept_step h op) hinit
  exact ⟨hrun.1.bounds, hrun.1.counters, hrun.1.counters_of_lt, hrun.2⟩

/-! ## Many factions -/

variable {tables player}

/-- A visible faction to which everyone is honored. -/
def honoredFaction (n : ℕ) : FactionEntry where
  ID := n + 1
  reputationListID := n
  BaseRepRaceMask := fun _ => 1
  BaseRepClassMask := fun _ => 0
  BaseRepValue := fun _ => 9000
  ReputationFlags := fun _ => 1
  team := 0
  spilloverRateIn := 0
  spilloverRateOut := 0
  spilloverMaxRankIn := 0

/-- `2 ^ 8` factions. -/
def manyFactions : ReputationTables where
  sFactionStore := {
    rows := (List.range 256).map honoredFaction
    id_nodup := by
      rw [List.map_map]
      exact List.nodup_range.map fun a b h => Nat.succ.inj h
    list_nodup := by
      have hall : ∀ f ∈ (List.range 256).map honoredFaction, f.CanHaveReputation = true := by
        intro f hf
        obtain ⟨n, -, rfl⟩ := List.mem_map.mp hf
        exact decide_eq_true (Int.natCast_nonneg n)
      rw [List.filter_eq_self.mpr hall, List.map_map]
      exact List.nodup_range.map fun a b h => Int.ofNat.inj h }
  GetRepSpilloverTemplate := fun _ => none
  rate := 1

def human : Character := ⟨1, 1⟩

theorem defaultStateFlags_honored (n : ℕ) : GetDefaultStateFlags human (honoredFaction n) = 1 := by
  simp [GetDefaultStateFlags, FactionEntry.valueFor, honoredFaction, human, List.finRange_succ]

theorem visibleCount_honored (n : ℕ) (m : ReputationMgr)
    (hm : m = ((List.range n).map honoredFaction).foldl (initFaction human)
      ⟨.empty, 0, 0, 0, 0, [], []⟩) :
    m.visibleCount = n ∧ ∀ k, n ≤ k → m._factions.find? k = none := by
  induction n generalizing m with
  | zero =>
    subst hm
    exact ⟨rfl, fun k _ => find?_empty k⟩
  | succ n ih =>
    rw [List.range_succ, List.map_append, List.foldl_append] at hm
    generalize hfirst : ((List.range n).map honoredFaction).foldl (initFaction human)
      ⟨.empty, 0, 0, 0, 0, [], []⟩ = first at hm
    obtain ⟨hvisible, hnone⟩ := ih first hfirst.symm
    have hmap : m._factions = first._factions.set n ⟨n + 1, n, 0, 1⟩ := by
      have hcan : (honoredFaction n).ID ≠ 0 ∧ (honoredFaction n).CanHaveReputation = true :=
        ⟨Nat.succ_ne_zero n, decide_eq_true (Int.natCast_nonneg n)⟩
      subst hm
      simp only [List.map_cons, List.map_nil, List.foldl_cons, List.foldl_nil, initFaction]
      rw [if_pos hcan, defaultStateFlags_honored, if_pos (by decide)]
      rfl
    rw [visibleCount] at hvisible ⊢
    rw [hmap]
    constructor
    · rw [countP_values_set_of_none (hnone n le_rfl), hvisible, if_pos]
      change (1 : BitVec 8) &&& 1 != 0
      decide
    · intro k hk
      rw [find?_set_of_ne _ _ (Nat.ne_of_gt hk)]
      exact hnone k (Nat.le_of_succ_le hk)

/-- **The counters of eight bits overflow**: all factions are visible, and none is counted. -/
theorem not_counters_manyFactions :
    ¬ ∀ tables player ops,
      Counters tables player (run (step tables player) (Initialize tables player) ops) id := by
  intro h
  have hvisible := (h manyFactions human []).visible
  have hnumber : visibleCount (Initialize manyFactions human) = 256 :=
    (visibleCount_honored 256 _ rfl).1
  have hcounter := (initially_kept manyFactions human).visible
  rw [run_nil, hcounter, hnumber] at hvisible
  exact absurd hvisible (by decide)

end TeraCore.Reputation
