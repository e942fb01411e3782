import TeraCore.DungeonFinding.LFGQueue

/-!
# What a search does

A search changes neither the dungeons nor the players of any entry, and the proposals it adds
are those of full groups.  It goes through the entries once, in their order: an entry that is
compatible with those chosen so far is chosen too and stays so, because the loop inside has used
up the list before the loop outside could try another entry.

## Main results

* `QueueEnv.checkEntries_congr`: the verdict depends on the dungeons and players only
* `QueueEnv.findNewGroups_eq`: the depth suffices, and the search is the walk
* `QueueEnv.SearchKeeps.findGroups`: what every part of a search keeps, a search keeps
* `QueueEnv.searched_findGroups`: a search adds proposals of full groups only
-/

namespace TeraCore

open Commons OrderedMap

/-! ## Entries that a check does not tell apart -/

/-- What a check reads of an entry. -/
def LfgQueueData.checked (d : LfgQueueData) : LfgDungeonSet × LfgRolesMap := (d.dungeons, d.roles)

/-- **The same entries**, as far as checks are concerned. -/
def SameEntries (data data' : OrderedMap Guid LfgQueueData) : Prop :=
  ∀ guid, (data'.find? guid).map LfgQueueData.checked =
    (data.find? guid).map LfgQueueData.checked

namespace SameEntries

variable {data data' data'' : OrderedMap Guid LfgQueueData}

theorem refl (data : OrderedMap Guid LfgQueueData) : SameEntries data data := fun _ => rfl

section

variable (h : SameEntries data data')
include h

theorem trans (h' : SameEntries data' data'') :
    SameEntries data data'' := fun guid => (h' guid).trans (h guid)

theorem symm : SameEntries data' data := fun guid => (h guid).symm

variable (guid : Guid)

theorem find?_eq_none_iff : data'.find? guid = none ↔ data.find? guid = none := by
  rw [← Option.map_eq_none_iff (f := LfgQueueData.checked), h guid, Option.map_eq_none_iff]

theorem contains_eq : data'.contains guid = data.contains guid := by
  have hnone := h.find?_eq_none_iff guid
  simp only [OrderedMap.contains]
  cases hd : data.find? guid <;> cases hd' : data'.find? guid <;> simp_all

theorem exists_find? {guid : Guid} {d : LfgQueueData} (hd : data.find? guid = some d) :
    ∃ d', data'.find? guid = some d' ∧ d'.dungeons = d.dungeons ∧ d'.roles = d.roles := by
  have hmap := h guid
  rw [hd, Option.map_some, Option.map_eq_some_iff] at hmap
  obtain ⟨d', hd', hchecked⟩ := hmap
  obtain ⟨hdun, hroles⟩ := Prod.mk.inj hchecked
  exact ⟨d', hd', hdun, hroles⟩

theorem checked_get : (data'.get guid).checked = (data.get guid).checked := by
  cases hd : data.find? guid with
  | none => rw [OrderedMap.get, OrderedMap.get, hd, (h.find?_eq_none_iff guid).mpr hd]
  | some d =>
    obtain ⟨d', hd', hdun, hroles⟩ := h.exists_find? hd
    rw [get_of_find? hd, get_of_find? hd']
    exact Prod.ext hdun hroles

theorem roles_get :
    (data'.get guid).roles = (data.get guid).roles := congrArg Prod.snd (h.checked_get guid)

theorem dungeons_get :
    (data'.get guid).dungeons = (data.get guid).dungeons := congrArg Prod.fst (h.checked_get guid)

end

theorem mapVals (data : OrderedMap Guid LfgQueueData) {f : Guid → LfgQueueData → LfgQueueData}
    (hf : ∀ guid d, (f guid d).checked = d.checked) : SameEntries data (data.mapVals f) := by
  intro guid
  rw [find?_mapVals, Option.map_map]
  exact congrArg (fun g => Option.map g (data.find? guid)) (funext fun d => hf guid d)

theorem set {guid : Guid} {d d' : LfgQueueData} (hd : data.find? guid = some d)
    (hchecked : d'.checked = d.checked) : SameEntries data (data.set guid d') := by
  intro j
  rw [find?_set]
  split_ifs with hj
  · rw [hj, hd, Option.map_some, Option.map_some, hchecked]
  · rfl

end SameEntries

namespace LfgQueueData

@[simp] theorem take_checked (d : LfgQueueData) (role : LfgRoles) :
    (d.take role).checked = d.checked := by
  unfold take
  split_ifs <;> rfl

@[simp] theorem updateBestCompatibleInQueue_checked (d : LfgQueueData) (key : LfgKey)
    (roles : LfgRolesMap) : (d.updateBestCompatibleInQueue key roles).checked = d.checked := by
  have hfold : ∀ (l : List LfgRoles) (d : LfgQueueData), (l.foldl take d).checked = d.checked := by
    intro l
    induction l with
    | nil => exact fun _ => rfl
    | cons role l ih => exact fun d => (ih _).trans (take_checked d role)
  rw [updateBestCompatibleInQueue]
  generalize (if d.bestCompatible = [] then 0 else LFGQueue.keySize d.bestCompatible) = stored
  split_ifs
  · rfl
  · exact hfold _ _

end LfgQueueData

namespace LFGQueue

variable (q : LFGQueue) (guid : Guid)

@[simp] theorem findBestCompatibleInQueue_checked (d : LfgQueueData) :
    (q.findBestCompatibleInQueue guid d).checked = d.checked := by
  unfold findBestCompatibleInQueue
  generalize q.compatibleMapStore.entries = entries
  induction entries generalizing d with
  | nil => rfl
  | cons e entries ih =>
    rw [List.foldl_cons, ih]
    split_ifs
    · exact LfgQueueData.updateBestCompatibleInQueue_checked _ _ _
    · rfl

/-! ## The fields after an operation -/

theorem removeFromQueue_find? (j : Guid) :
    ((q.removeFromQueue guid).queueDataStore.find? j).map LfgQueueData.checked =
      if j = guid then none else (q.queueDataStore.find? j).map LfgQueueData.checked := by
  simp only [removeFromQueue, find?_erase]
  split_ifs with hj
  · rfl
  · refine SameEntries.mapVals _ (fun k d => ?_) j
    split_ifs
    · exact findBestCompatibleInQueue_checked _ _ _
    · rfl

theorem sameEntries_removeFromQueue (h : q.queueDataStore.find? guid = none) :
    SameEntries q.queueDataStore (q.removeFromQueue guid).queueDataStore := fun j => by
  rw [removeFromQueue_find?]
  split_ifs with hj
  · rw [hj, h]
    rfl
  · rfl

end LFGQueue

namespace QueueEnv

variable (env : QueueEnv)

variable (check : List Guid) (roles : LfgRolesMap) (q : LFGQueue)

theorem noteLessPlayers_compatibleMapStore : (noteLessPlayers check roles q).compatibleMapStore =
      q.compatibleMapStore.set (concatenateGuids check) ⟨.withLessPlayers, roles⟩ := rfl

theorem sameEntries_noteLessPlayers :
    SameEntries q.queueDataStore (noteLessPlayers check roles q).queueDataStore := by
  simp only [noteLessPlayers, LFGQueue.setCompatibilityData]
  generalize concatenateGuids check = key
  generalize q.queueDataStore = data
  induction check generalizing data with
  | nil => exact SameEntries.refl data
  | cons guid check ih =>
    refine SameEntries.trans ?_ (ih _)
    simp only
    cases hd : data.find? guid with
    | none => exact SameEntries.refl data
    | some d => exact SameEntries.set hd (LfgQueueData.updateBestCompatibleInQueue_checked d _ _)

theorem foldl_remove_eq (check : List Guid) (q : LFGQueue) :
    check.foldl (fun q guid => (q.removeFromNewQueue guid).removeFromCurrentQueue guid) q =
      { q with
        newToQueueStore := q.newToQueueStore.filter (· ∉ check)
        currentQueueStore := q.currentQueueStore.filter (· ∉ check) } := by
  induction check generalizing q with
  | nil => simp
  | cons guid check ih =>
    rw [List.foldl_cons, ih]
    simp only [LFGQueue.removeFromNewQueue, LFGQueue.removeFromCurrentQueue, List.filter_filter,
      List.mem_cons, not_or]
    congr 2 <;> funext j <;> simp [Bool.and_comm]

/-! ## The verdict reads dungeons and players -/

section Congr

variable {data data' : OrderedMap Guid LfgQueueData}

section

variable (h : SameEntries data data') (check : List Guid)
include h

theorem countEntries_congr (c : Counted) :
    countEntries env data' check c = countEntries env data check c := by
  induction check generalizing c with
  | nil => rfl
  | cons guid check ih =>
    simp only [countEntries]
    split_ifs
    · cases hd : data.find? guid with
      | none => rw [(h.find?_eq_none_iff guid).mpr hd]
      | some d =>
        obtain ⟨d', hd', -, hroles⟩ := h.exists_find? hd
        simp only [hd', hroles, ih]
    · rfl

theorem mergeRoles_congr : mergeRoles env data' check = mergeRoles env data check := by
  simp only [mergeRoles, h.roles_get]

theorem commonDungeons_congr : commonDungeons data' check = commonDungeons data check := by
  cases check with
  | nil => rfl
  | cons guid check => simp only [commonDungeons, h.dungeons_get]

/-- **The verdict depends on the dungeons and players of the entries only.** -/
theorem checkEntries_congr : checkEntries env data' check = checkEntries env data check := by
  simp only [checkEntries, countEntries_congr env h, mergeRoles_congr env h,
    commonDungeons_congr h, h.roles_get, h.dungeons_get]

end

theorem find?_eq_none_of_countEntries {check : List Guid} {c : Counted} {guid : Guid}
    (h : countEntries env data check c = .error guid) : data.find? guid = none := by
  induction check generalizing c with
  | nil => cases h
  | cons j check ih =>
    simp only [countEntries] at h
    split_ifs at h
    · cases hd : data.find? j with
      | none =>
        rw [hd] at h
        cases h
        exact hd
      | some d =>
        rw [hd] at h
        exact ih h

theorem find?_eq_none_of_checkEntries {check : List Guid} {guid : Guid}
    (h : checkEntries env data check = .error guid) : data.find? guid = none := by
  unfold checkEntries at h
  cases hc : countEntries env data check {} with
  | error j =>
    rw [hc] at h
    cases h
    exact find?_eq_none_of_countEntries env hc
  | ok counted =>
    rw [hc] at h
    simp only at h
    cases hg : checkGroupRoles (mergeRoles env data check) with
    | mk found roles =>
      rw [hg] at h
      cases found <;> simp only at h <;> split_ifs at h

end Congr

/-! ## The walk over the entries -/

/-- **The walk over the entries**: an entry that is compatible with those chosen so far is
chosen too. -/
def firstFit : List Guid → List Guid → MatchState → LfgCompatibility × List Guid × MatchState
  | _, [], st => (.withLessPlayers, [], st)
  | check, guid :: all, st =>
    match env.answer (check ++ [guid]) st with
    | (.matched, st) => (.matched, all, st)
    | (.withLessPlayers, st) => firstFit (check ++ [guid]) all st
    | (_, st) => firstFit check all st

section FirstFit

variable {env} {check} {all : List Guid} {guid : Guid} {st st' : MatchState}

theorem firstFit_cons_matched (h : env.answer (check ++ [guid]) st = (.matched, st')) :
    env.firstFit check (guid :: all) st = (.matched, all, st') := by
  rw [firstFit, h]

theorem firstFit_cons_take (h : env.answer (check ++ [guid]) st = (.withLessPlayers, st')) :
    env.firstFit check (guid :: all) st = env.firstFit (check ++ [guid]) all st' := by
  rw [firstFit, h]

theorem firstFit_cons_skip {c : LfgCompatibility} (h : env.answer (check ++ [guid]) st = (c, st'))
    (hmatched : c ≠ .matched) (hless : c ≠ .withLessPlayers) :
    env.firstFit check (guid :: all) st = env.firstFit check all st' := by
  rw [firstFit, h]
  cases c <;> first | rfl | exact absurd rfl hmatched | exact absurd rfl hless

end FirstFit

theorem firstFit_of_ne_matched {all : List Guid} : ∀ {check : List Guid} {st : MatchState},
    (env.firstFit check all st).1 ≠ .matched →
      (env.firstFit check all st).1 = .withLessPlayers ∧
        (env.firstFit check all st).2.1 = [] := by
  induction all with
  | nil => exact fun _ => ⟨rfl, rfl⟩
  | cons guid all ih =>
    rintro check st h
    simp only [firstFit] at h ⊢
    cases ha : env.answer (check ++ [guid]) st with
    | mk compatibles st' =>
      rw [ha] at h
      cases compatibles <;> first | exact absurd rfl h | exact ih h

/-- The answer for a list, and the walk if it is compatible with more. -/
def searchFrom (check all : List Guid) (st : MatchState) :
    LfgCompatibility × List Guid × MatchState :=
  match env.answer check st with
  | (.withLessPlayers, st) => env.firstFit check all st
  | (compatibles, st) => (compatibles, all, st)

theorem tryQueued_eq {all : List Guid} : ∀ {depth : ℕ}, 2 * all.length ≤ depth →
    ∀ (check : List Guid) (st : MatchState),
      findNewGroups.tryQueued env depth check all st = env.firstFit check all st := by
  induction all with
  | nil => rintro (_ | depth) _ check st <;> rfl
  | cons guid all ih =>
    rintro (_ | _ | depth) hdepth check st
    · simp at hdepth
    · simp only [List.length_cons] at hdepth
      omega
    · have hall : 2 * all.length ≤ depth := by simp at hdepth; omega
      simp only [findNewGroups.tryQueued, findNewGroups, firstFit]
      cases ha : env.answer (check ++ [guid]) st with
      | mk compatibles st' =>
        -- the loop inside has either matched, or left nothing for the loop outside
        cases compatibles with
        | withLessPlayers =>
          simp only
          rw [ih hall]
          rcases hw : env.firstFit (check ++ [guid]) all st' with ⟨found, left, st''⟩
          have hleft := @firstFit_of_ne_matched env all (check ++ [guid]) st'
          rw [hw] at hleft
          by_cases hfound : found = .matched
          · rw [hfound]
          · obtain ⟨rfl, rfl⟩ := hleft hfound
            rfl
        | matched => rfl
        | _ => exact ih (hall.trans (Nat.le_succ _)) check st'

theorem findNewGroups_eq {depth : ℕ} {all : List Guid} (hdepth : 2 * all.length + 2 ≤ depth)
    (check : List Guid) (st : MatchState) :
    env.findNewGroups depth check all st = env.searchFrom check all st := by
  obtain ⟨depth, rfl⟩ := Nat.exists_eq_add_of_le' (show 1 ≤ depth by omega)
  simp only [findNewGroups, searchFrom]
  cases ha : env.answer check st with
  | mk compatibles st' =>
    cases compatibles with
    | withLessPlayers => exact tryQueued_eq env (by omega) check st'
    | _ => rfl

/-! ## What a search may have done -/

structure Created (data : OrderedMap Guid LfgQueueData) (id : ℕ) (p : LfgProposal) : Prop where
  length_le : p.queues.length ≤ maxGroupSize
  allQueued : env.allQueued p.queues = true
  full : ∃ counted roles dungeons,
    checkEntries env data p.queues = .ok (.full counted roles dungeons) ∧
      p = env.createProposal id p.queues counted roles dungeons

/-- **What a search may have done**: the entries are the same as far as checks are concerned,
the proposals that were there are there, and the new ones are those of full groups. -/
structure Searched (st st' : MatchState) : Prop where
  same : SameEntries st.queue.queueDataStore st'.queue.queueDataStore
  lastId_le : st.proposals.lastId ≤ st'.proposals.lastId
  kept : ∀ id ≤ st.proposals.lastId, st'.proposals.find? id = st.proposals.find? id
  created : ∀ id, st.proposals.lastId < id → id ≤ st'.proposals.lastId →
    ∃ p, st'.proposals.find? id = some p ∧ env.Created st.queue.queueDataStore id p

variable {env} {st st' st'' : MatchState}

theorem Created.congr {data data' : OrderedMap Guid LfgQueueData} {id : ℕ} {p : LfgProposal}
    (h : SameEntries data data') (hp : env.Created data' id p) : env.Created data id p := by
  obtain ⟨hlen, hqueued, counted, roles, dungeons, hcheck, heq⟩ := hp
  exact ⟨hlen, hqueued, counted, roles, dungeons,
    (checkEntries_congr env h _).symm.trans hcheck, heq⟩

namespace Searched

theorem refl (st : MatchState) : env.Searched st st where
  same := SameEntries.refl _
  lastId_le := le_rfl
  kept _ _ := rfl
  created _ h h' := absurd h' (not_le.mpr h)

theorem trans (h : env.Searched st st') (h' : env.Searched st' st'') : env.Searched st st'' where
  same := h.same.trans h'.same
  lastId_le := h.lastId_le.trans h'.lastId_le
  kept id hid := (h'.kept id (hid.trans h.lastId_le)).trans (h.kept id hid)
  created id hid hid' := by
    by_cases hnew : st'.proposals.lastId < id
    · obtain ⟨p, hp, hcreated⟩ := h'.created id hnew hid'
      exact ⟨p, hp, hcreated.congr h.same⟩
    · obtain ⟨p, hp, hcreated⟩ := h.created id hid (not_lt.mp hnew)
      exact ⟨p, (h'.kept id (not_lt.mp hnew)).trans hp, hcreated⟩

theorem update (st : MatchState) (f : LFGQueue → LFGQueue)
    (h : SameEntries st.queue.queueDataStore (f st.queue).queueDataStore) :
    env.Searched st (st.update f) where
  same := h
  lastId_le := le_rfl
  kept _ _ := rfl
  created _ h h' := absurd h' (not_le.mpr h)

theorem setCompatibles (st : MatchState) (key : LfgKey) (c : LfgCompatibility) :
    env.Searched st (st.update (·.setCompatibles key c)) := update st _ (SameEntries.refl _)

end Searched

theorem searched_propose {check : List Guid} {counted : Counted} {roles : LfgRolesMap}
    {dungeons : LfgDungeonSet} (hlen : check.length ≤ maxGroupSize)
    (hqueued : env.allQueued check = true)
    (hcheck : checkEntries env st.queue.queueDataStore check = .ok (.full counted roles dungeons)) :
    env.Searched st (env.propose check counted roles dungeons st) where
  same := by
    simp only [propose, foldl_remove_eq]
    exact SameEntries.refl _
  lastId_le := Nat.le_succ _
  kept id hid := by
    simp only [propose, ProposalPool.find?_add]
    rw [if_neg (by omega)]
  created id hid hid' := by
    obtain rfl : id = st.proposals.lastId + 1 := Nat.le_antisymm hid' hid
    refine ⟨env.createProposal (st.proposals.lastId + 1) check counted roles dungeons, ?_, hlen,
      hqueued, counted, roles, dungeons, hcheck, rfl⟩
    simp [propose, ProposalPool.find?_add]

variable (env)

theorem searched_applyVerdict (check : List Guid) (hlen : check.length ≤ maxGroupSize)
    (st : MatchState) : env.Searched st (env.applyVerdict check st).2 := by
  unfold applyVerdict
  cases hv : checkEntries env st.queue.queueDataStore check with
  | error guid =>
    exact Searched.update st (·.removeFromQueue guid)
      (LFGQueue.sameEntries_removeFromQueue _ _ (find?_eq_none_of_checkEntries env hv))
  | ok verdict =>
    cases verdict with
    | incompatible compatibles => exact Searched.setCompatibles st _ _
    | lessPlayers roles => exact Searched.update st _ (sameEntries_noteLessPlayers _ _ _)
    | full counted roles dungeons =>
      by_cases hqueued : env.allQueued check = true
      · simp only [if_pos hqueued]
        exact (searched_propose hlen hqueued hv).trans (Searched.setCompatibles _ _ _)
      · simp only [if_neg hqueued]
        exact Searched.setCompatibles st _ _

/-! ## What every part of a search keeps -/

/-- **What a search keeps** when its verdicts, its cache and its changes of the lists do.  The
entries it looks at are those that are listed. -/
structure SearchKeeps (queued : Guid → Prop) (P : MatchState → Prop) : Prop where
  verdict : ∀ check st, check ≠ [] → check.length ≤ maxGroupSize → (∀ guid ∈ check, queued guid) →
    P st → P (env.applyVerdict check st).2
  cache : ∀ key c st, c ≠ .withLessPlayers → P st → P (st.update (·.setCompatibles key c))
  pop : ∀ guid st, P st → P (st.update (·.removeFromNewQueue guid))
  push : ∀ guid st, queued guid → P st → P (st.update (·.addToCurrentQueue guid))
  new : ∀ st, P st → ∀ guid ∈ st.queue.newToQueueStore, queued guid
  current : ∀ st, P st → ∀ guid ∈ st.queue.currentQueueStore, queued guid

namespace SearchKeeps

variable {env} {queued : Guid → Prop} {P : MatchState → Prop} (h : SearchKeeps env queued P) {check}
  {all : List Guid}include h

section

variable (hcheck : ∀ guid ∈ check, queued guid)
include hcheck

theorem checkCompatibility (hst : P st) : P (env.checkCompatibility check st).2 := by
  induction check generalizing st with
  | nil => exact hst
  | cons front rest ih =>
    have hrest := ih (fun guid hguid => hcheck guid (List.mem_cons_of_mem _ hguid)) hst
    simp only [QueueEnv.checkCompatibility]
    split_ifs with hsize htwo hchild
    · exact hst
    · exact h.verdict _ _ (List.cons_ne_nil _ _) (not_lt.mp hsize) hcheck hrest
    · exact h.cache _ _ _ (fun heq => hchild (by rw [heq]; rfl)) hrest
    · exact h.verdict _ _ (List.cons_ne_nil _ _) (not_lt.mp hsize) hcheck hst

theorem answer (hst : P st) : P (env.answer check st).2 := by
  have hanswer : P (env.cachedOrChecked check st).2 := by
    unfold cachedOrChecked
    cases st.queue.getCompatibles (concatenateGuids check) with
    | pending => exact h.checkCompatibility hcheck hst
    | _ => exact hst
  unfold QueueEnv.answer
  generalize env.cachedOrChecked check st = result at hanswer ⊢
  obtain ⟨compatibles, st₁⟩ := result
  cases compatibles with
  | badStates =>
    split_ifs
    · exact h.cache _ _ _ (by decide) hanswer
    · exact hanswer
  | _ => exact hanswer

theorem firstFit (hall : ∀ guid ∈ all, queued guid) (hst : P st) :
    P (env.firstFit check all st).2.2 := by
  induction all generalizing check st with
  | nil => exact hst
  | cons guid all ih =>
    have hall' : ∀ j ∈ all, queued j := fun j hj => hall j (List.mem_cons_of_mem _ hj)
    have hlonger : ∀ j ∈ check ++ [guid], queued j := by
      intro j hj
      rcases List.mem_append.mp hj with hj | hj
      · exact hcheck j hj
      · exact List.mem_singleton.mp hj ▸ hall guid List.mem_cons_self
    have hanswer := h.answer hlonger hst
    simp only [QueueEnv.firstFit]
    generalize env.answer (check ++ [guid]) st = result at hanswer ⊢
    obtain ⟨compatibles, st₁⟩ := result
    cases compatibles with
    | matched => exact hanswer
    | withLessPlayers => exact ih hlonger hall' hanswer
    | _ => exact ih hcheck hall' hanswer

theorem searchFrom (hall : ∀ guid ∈ all, queued guid) (hst : P st) :
    P (env.searchFrom check all st).2.2 := by
  have hanswer := h.answer hcheck hst
  unfold QueueEnv.searchFrom
  generalize env.answer check st = result at hanswer ⊢
  obtain ⟨compatibles, st₁⟩ := result
  cases compatibles with
  | withLessPlayers => exact h.firstFit hcheck hall hanswer
  | _ => exact hanswer

end

theorem findGroupsFrom (count proposals : ℕ) (hst : P st) :
    P (env.findGroupsFrom count proposals st).2 := by
  induction count generalizing proposals st with
  | zero => exact hst
  | succ count ih =>
    unfold QueueEnv.findGroupsFrom
    cases hnew : st.queue.newToQueueStore with
    | nil => exact hst
    | cons frontguid rest =>
      have hfront : queued frontguid := h.new st hst frontguid (hnew ▸ List.mem_cons_self)
      have hpop := h.pop frontguid st hst
      simp only [findNewGroups_eq env le_rfl]
      generalize st.update (·.removeFromNewQueue frontguid) = st₁ at hpop
      have hsearch := h.searchFrom (List.forall_mem_singleton.mpr hfront) (h.current st₁ hpop) hpop
      generalize env.searchFrom [frontguid] st₁.queue.currentQueueStore st₁ = result at hsearch ⊢
      obtain ⟨found, left, st₂⟩ := result
      cases found with
      | matched => exact ih _ hsearch
      | _ => exact ih _ (h.push frontguid _ hfront hsearch)

/-- **A search keeps it.** -/
theorem findGroups (hst : P st) : P (env.findGroups st).2 := h.findGroupsFrom _ _ hst

end SearchKeeps

theorem searchKeeps_searched (st : MatchState) :
    SearchKeeps env (fun _ => True) fun st' => env.Searched st st' where
  verdict check st' _ hlen _ hst := hst.trans (searched_applyVerdict env check hlen st')
  cache key c st' _ hst := hst.trans (Searched.setCompatibles st' key c)
  pop _ st' hst := hst.trans (Searched.update st' _ (SameEntries.refl _))
  push _ st' _ hst := hst.trans (Searched.update st' _ (SameEntries.refl _))
  new _ _ _ _ := trivial
  current _ _ _ _ := trivial

theorem searched_checkCompatibility (check : List Guid) (st : MatchState) :
    env.Searched st (env.checkCompatibility check st).2 :=
  (searchKeeps_searched env st).checkCompatibility (fun _ _ => trivial) (Searched.refl st)

/-- **A search adds proposals of full groups only**, and changes no entry. -/
theorem searched_findGroups (st : MatchState) : env.Searched st (env.findGroups st).2 :=
  (searchKeeps_searched env st).findGroups (Searched.refl st)

end QueueEnv

end TeraCore
