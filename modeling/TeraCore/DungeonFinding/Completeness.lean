import TeraCore.DungeonFinding.Soundness

/-!
# Which full groups a search finds

A search for a group with a new entry returns the first full group its walk comes to.  The walk
never gives an entry back: the list of the others is used up inside.  So a full group is found
exactly if it is the one the walk chooses, and a full group further on can stay unfound because
an earlier entry, compatible with the new one, took its place.

## Main results

* `QueueEnv.checkCompatibility_answers`: a check answers for its list
* `QueueEnv.firstFit_matched_iff`: what the walk finds
* `QueueEnv.findNewGroups_matched_of_fullGroup_iff`: when a search finds a group if there is one
-/

namespace TeraCore

open Commons OrderedMap

namespace QueueEnv

variable (env : QueueEnv) {data data' : OrderedMap Guid LfgQueueData}

/-! ## The order of a list does not matter -/

section Perm

variable {env} {check check' : List Guid}

theorem playersOf_perm (h : check.Perm check') :
    (playersOf data check).Perm (playersOf data check') := h.flatMap_right _

theorem rolesOf_perm (h : check.Perm check') :
    (rolesOf data check).Perm (rolesOf data check') := h.flatMap_right _

/-- **Entries that go together do in any order.** -/
theorem Compatible.perm (h : check.Perm check')
    (hc : Compatible env data check') : Compatible env data check := by
  have hplayers : (playersOf data check).Perm (playersOf data check') := playersOf_perm h
  have hnodup := hplayers.nodup_iff.mpr hc.nodup
  have hpair : (playersOf data check).Pairwise fun a b => env.hasIgnore a b = false :=
    (hplayers.pairwise_iff fun {a b} hab => by rwa [hasIgnore_comm]).mpr hc.noIgnores
  have hle : (playersOf data check).length ≤ maxGroupSize :=
    hplayers.length_eq ▸ hc.players_le
  refine ⟨hle, hnodup, hpair, h.countP_eq _ ▸ hc.lfgGroups_le, ?_, ?_⟩
  · have hsize := (mergeRoles_size_eq_iff env data check).mpr ⟨hnodup, hpair⟩
    have hsize' := (mergeRoles_size_eq_iff env data check').mpr ⟨hc.nodup, hc.noIgnores⟩
    have hbyte : maxGroupSize < 2 ^ 8 := by decide
    obtain ⟨hne, given, hsuits⟩ := (checkGroupRoles_mergeRoles_iff env hsize'
      (hc.players_le.trans_lt hbyte)).mp hc.roles
    refine (checkGroupRoles_mergeRoles_iff env hsize (hle.trans_lt hbyte)).mpr
      ⟨?_, given, hsuits.perm (rolesOf_perm h)⟩
    rintro hnil
    rw [hnil] at hplayers
    exact hne hplayers.nil_eq.symm
  · have hne' : check' ≠ [] := by
      rintro rfl
      exact hc.dungeons rfl
    have hne : check ≠ [] := by
      rintro rfl
      exact hne' h.nil_eq.symm
    obtain ⟨dungeon, hmem⟩ := List.exists_mem_of_ne_nil _ hc.dungeons
    refine List.ne_nil_of_mem (a := dungeon) ?_
    rw [OrderedSet.mem_elems, mem_commonDungeons hne]
    rw [OrderedSet.mem_elems, mem_commonDungeons hne'] at hmem
    exact fun guid hguid => hmem guid (h.subset hguid)

end Perm

/-! ## What an answer says -/

variable (data) in
/-- **The answer says whether the entries go together**, and whether they are a full group. -/
def Answers (check : List Guid) (c : LfgCompatibility) : Prop :=
  (c = .withLessPlayers ∧ Compatible env data check ∧
      (playersOf data check).length < maxGroupSize) ∨
    (c = .matched ∧ FullGroup env data check) ∨
    (c.isCompatible = false ∧ c ≠ .pending ∧ ¬Compatible env data check)

/-- Entries that a search can use: queued, and of one to five players. -/
structure Usable (data : OrderedMap Guid LfgQueueData) (guid : Guid) : Prop where
  present : data.find? guid ≠ none
  players_ne : (data.get guid).roles.keys ≠ []
  size_le : (data.get guid).roles.size ≤ maxGroupSize
  queued : env.getState guid = .queued

theorem usable_iff {guid : Guid} : Usable env data guid ↔
    data.find? guid ≠ none ∧ (data.get guid).roles.keys ≠ [] ∧
      (data.get guid).roles.size ≤ maxGroupSize ∧ env.getState guid = .queued :=
  ⟨fun h => ⟨h.present, h.players_ne, h.size_le, h.queued⟩,
    fun ⟨h₁, h₂, h₃, h₄⟩ => ⟨h₁, h₂, h₃, h₄⟩⟩

instance (data : OrderedMap Guid LfgQueueData) (guid : Guid) : Decidable (Usable env data guid) :=
  haveI : Decidable (data.find? guid ≠ none) :=
    decidable_of_iff (data.contains guid = true) Option.isSome_iff_ne_none
  decidable_of_iff' _ (usable_iff env)

section Answers

variable {env} {check : List Guid}

theorem Answers.perm {check' : List Guid} {c : LfgCompatibility}
    (h : check.Perm check') (hc : Answers env data check' c) : Answers env data check c := by
  have hlen : (playersOf data check).length = (playersOf data check').length :=
    (playersOf_perm h).length_eq
  rcases hc with ⟨rfl, hcomp, hless⟩ | ⟨rfl, hfull⟩ | ⟨hinc, hpend, hcomp⟩
  · exact .inl ⟨rfl, hcomp.perm h, hlen ▸ hless⟩
  · exact .inr (.inl ⟨rfl, hfull.toCompatible.perm h, hlen.trans hfull.players_eq⟩)
  · exact .inr (.inr ⟨hinc, hpend, fun hcomp' => hcomp (hcomp'.perm h.symm)⟩)

theorem Usable.congr (hsame : SameEntries data data') {guid : Guid} (h : Usable env data guid) :
    Usable env data' guid where
  present := (hsame.find?_eq_none_iff guid).not.mpr h.present
  players_ne := hsame.roles_get guid ▸ h.players_ne
  size_le := hsame.roles_get guid ▸ h.size_le
  queued := h.queued

theorem playersOf_ne_nil (hne : check ≠ [])
    (h : ∀ guid ∈ check, Usable env data guid) : playersOf data check ≠ [] := by
  cases check with
  | nil => exact absurd rfl hne
  | cons guid check =>
    obtain ⟨player, hplayer⟩ := List.exists_mem_of_ne_nil _ (h guid List.mem_cons_self).players_ne
    exact List.ne_nil_of_mem (mem_playersOf.mpr ⟨guid, List.mem_cons_self, hplayer⟩)

theorem length_le_playersOf (h : ∀ guid ∈ check, Usable env data guid) :
    check.length ≤ (playersOf data check).length := by
  induction check with
  | nil => exact Nat.zero_le _
  | cons guid check ih =>
    have hpos := List.length_pos_iff.mpr (h guid List.mem_cons_self).players_ne
    have hrest := ih fun j hj => h j (List.mem_cons_of_mem _ hj)
    rw [playersOf, List.flatMap_cons, List.length_append, List.length_cons]
    rw [playersOf] at hrest
    omega

theorem Compatible.nodup_of_usable (hc : Compatible env data check)
    (h : ∀ guid ∈ check, Usable env data guid) : check.Nodup := by
  have hnodup := hc.nodup
  rw [playersOf, List.nodup_flatMap] at hnodup
  refine hnodup.2.imp_of_mem fun {guid guid'} hmem _ hdisj heq => ?_
  subst heq
  obtain ⟨player, hplayer⟩ := List.exists_mem_of_ne_nil _ (h guid hmem).players_ne
  exact hdisj hplayer hplayer

theorem allQueued_of_usable (hne : check ≠ [])
    (h : ∀ guid ∈ check, Usable env data guid) : env.allQueued check = true := by
  simpa [allQueued, hne] using fun guid hguid => (h guid hguid).queued

/-- **The verdict and its effects**: the answer is that for the list, and it is cached. -/
theorem applyVerdict_answers {st : MatchState} (hlen : 1 < check.length)
    (h : ∀ guid ∈ check, Usable env st.queue.queueDataStore guid) :
    Answers env st.queue.queueDataStore check (env.applyVerdict check st).1 ∧
      (∀ key, key ≠ concatenateGuids check →
        (env.applyVerdict check st).2.queue.compatibleMapStore.find? key =
          st.queue.compatibleMapStore.find? key) ∧
      (env.applyVerdict check st).2.queue.getCompatibles (concatenateGuids check) =
        (env.applyVerdict check st).1 := by
  have hne : check ≠ [] := by
    rintro rfl
    exact absurd hlen (by decide)
  obtain ⟨counted, hcount⟩ : ∃ c, countEntries env st.queue.queueDataStore check {} = .ok c :=
    exists_countEntries (fun guid hguid => (h guid hguid).present) {}
  rcases checkEntries_spec hlen (fun guid hguid => (h guid hguid).size_le) hcount with
    ⟨c, hv, hinc, hpend, hcomp⟩ | ⟨roles, hv, -, hcomp, hless⟩ | ⟨roles, hv, -, -, -, hfull⟩
  · rw [applyVerdict, hv]
    refine ⟨.inr (.inr ⟨hinc, hpend, hcomp⟩), fun key hkey => ?_, ?_⟩
    · exact find?_set_of_ne _ _ hkey
    · simp [MatchState.update, LFGQueue.setCompatibles, LFGQueue.getCompatibles]
  · rw [applyVerdict, hv]
    refine ⟨.inl ⟨rfl, hcomp, hless⟩, fun key hkey => ?_, ?_⟩
    · exact find?_set_of_ne _ _ hkey
    · simp [MatchState.update, LFGQueue.getCompatibles, noteLessPlayers_compatibleMapStore]
  · rw [applyVerdict, hv]
    simp only [if_pos (allQueued_of_usable hne h)]
    refine ⟨.inr (.inl ⟨rfl, hfull⟩), fun key hkey => ?_, ?_⟩
    · simp only [MatchState.update, LFGQueue.setCompatibles, propose, foldl_remove_eq]
      exact find?_set_of_ne _ _ hkey
    · simp [MatchState.update, LFGQueue.setCompatibles, LFGQueue.getCompatibles]

theorem Compatible.congr (hsame : SameEntries data data')
    (hc : Compatible env data check) : Compatible env data' check := by
  obtain ⟨hle, hnodup, hpair, hlfg, hroles, hdun⟩ := hc
  rw [← playersOf_congr hsame] at hle hnodup hpair
  rw [← mergeRoles_congr env hsame] at hroles
  rw [← commonDungeons_congr hsame] at hdun
  exact ⟨hle, hnodup, hpair, hlfg, hroles, hdun⟩

theorem Answers.congr (hsame : SameEntries data data')
    {c : LfgCompatibility} (hc : Answers env data check c) : Answers env data' check c := by
  have hlen : (playersOf data' check).length = (playersOf data check).length := by
    rw [playersOf_congr hsame]
  rcases hc with ⟨rfl, hcomp, hless⟩ | ⟨rfl, hfull⟩ | ⟨hinc, hpend, hcomp⟩
  · exact .inl ⟨rfl, hcomp.congr hsame, hlen ▸ hless⟩
  · exact .inr (.inl ⟨rfl, hfull.toCompatible.congr hsame, hlen.trans hfull.players_eq⟩)
  · exact .inr (.inr ⟨hinc, hpend, fun hcomp' => hcomp (hcomp'.congr hsame.symm)⟩)

/-- **A check answers for its list**, and caches answers for the ends of the list only.  That
for the whole list is the one it gives, unless the list is too long to be looked at. -/
theorem checkCompatibility_answers : ∀ {st : MatchState},
    1 < check.length → (∀ guid ∈ check, Usable env st.queue.queueDataStore guid) →
      Answers env st.queue.queueDataStore check (env.checkCompatibility check st).1 ∧
        (∀ key, (∀ check', check' <:+ check → key ≠ concatenateGuids check') →
          (env.checkCompatibility check st).2.queue.compatibleMapStore.find? key =
            st.queue.compatibleMapStore.find? key) ∧
        ((env.checkCompatibility check st).2.queue.getCompatibles (concatenateGuids check) =
            (env.checkCompatibility check st).1 ∨
          (env.checkCompatibility check st) = (.wrongGroupSize, st)) := by
  induction check with
  | nil => exact fun hlen => absurd hlen (by decide)
  | cons front rest ih =>
    rintro st hlen h
    simp only [checkCompatibility]
    split_ifs with hsize htwo hchild
    · -- too many entries are too many players
      refine ⟨.inr (.inr ⟨rfl, by simp, fun hcomp => ?_⟩), fun _ _ => rfl, .inr rfl⟩
      have := length_le_playersOf h
      have := hcomp.players_le
      simp only [List.length_cons] at *
      omega
    · obtain ⟨-, hcache, -⟩ := ih htwo fun guid hguid => h guid (List.mem_cons_of_mem _ hguid)
      have hsame := (searched_checkCompatibility env rest st).same
      obtain ⟨hanswer, hcache', hnoted⟩ :=
        applyVerdict_answers hlen fun guid hguid => (h guid hguid).congr hsame
      refine ⟨hanswer.congr hsame.symm, fun key hkey => ?_, .inl hnoted⟩
      rw [hcache' key (hkey _ List.suffix_rfl)]
      exact hcache key fun check' hsuffix => hkey check' (hsuffix.trans (List.suffix_cons _ _))
    · obtain ⟨hanswer, hcache, -⟩ :=
        ih htwo fun guid hguid => h guid (List.mem_cons_of_mem _ hguid)
      rw [Bool.not_eq_true] at hchild
      have hrest : ¬Compatible env st.queue.queueDataStore rest ∧
          (env.checkCompatibility rest st).1 ≠ .pending := by
        rcases hanswer with ⟨heq, -⟩ | ⟨heq, -⟩ | ⟨-, hpend, hcomp⟩
        · rw [heq] at hchild; cases hchild
        · rw [heq] at hchild; cases hchild
        · exact ⟨hcomp, hpend⟩
      refine ⟨.inr (.inr ⟨hchild, hrest.2, fun hcomp => hrest.1 ?_⟩), fun key hkey => ?_,
        .inl ?_⟩
      · have hne : rest ≠ [] := List.ne_nil_of_length_pos (by omega)
        exact hcomp.sublist env (List.sublist_cons_self _ _) hne
          (playersOf_ne_nil hne fun guid hguid => h guid (List.mem_cons_of_mem _ hguid))
      · rw [MatchState.update, LFGQueue.setCompatibles]
        rw [find?_set_of_ne _ _ (hkey _ List.suffix_rfl)]
        exact hcache key fun check' hsuffix => hkey check' (hsuffix.trans (List.suffix_cons _ _))
      · simp [MatchState.update, LFGQueue.setCompatibles, LFGQueue.getCompatibles]
    · obtain ⟨hanswer, hcache, hnoted⟩ := applyVerdict_answers hlen h
      exact ⟨hanswer, fun key hkey => hcache key (hkey _ List.suffix_rfl), .inl hnoted⟩

end Answers

/-! ## The walk -/

/-- **Entries that the walk chooses**, one after another, from those in `all`: one that it
passes over does not go together with those chosen before it. -/
inductive FirstFit (data : OrderedMap Guid LfgQueueData) : List Guid → List Guid → List Guid → Prop
  | done (check all : List Guid) : FirstFit data check all []
  | take {check all chosen : List Guid} {guid : Guid}
      (h : FirstFit data (check ++ [guid]) all chosen) :
      FirstFit data check (guid :: all) (guid :: chosen)
  | skip {check all chosen : List Guid} {guid : Guid} (hnew : guid ∉ check)
      (hcomp : ¬Compatible env data (check ++ [guid])) (h : FirstFit data check all chosen) :
      FirstFit data check (guid :: all) chosen

theorem FirstFit.sublist {check all chosen : List Guid} (h : FirstFit env data check all chosen) :
    chosen.Sublist all := by
  induction h with
  | done => exact List.nil_sublist _
  | take _ ih => exact ih.cons_cons _
  | skip _ _ _ ih => exact ih.cons _

/-- No list with the new entry is cached as a match, or as one that will be. -/
def Unmatched (guid : Guid) (st : MatchState) : Prop :=
  ∀ check, guid ∈ check → st.queue.getCompatibles (concatenateGuids check) ≠ .matched ∧
    st.queue.getCompatibles (concatenateGuids check) ≠ .badStates

/-- **What the walk relies on**: the entries chosen so far are noted as compatible, and what is
cached for lists with the new entry is right. -/
structure WalkInv (data : OrderedMap Guid LfgQueueData) (guid : Guid) (queue chosen : List Guid)
    (st : MatchState) : Prop where
  same : SameEntries data st.queue.queueDataStore
  noted : st.queue.getCompatibles (concatenateGuids (guid :: chosen)) = .withLessPlayers
  unmatched : Unmatched guid st
  correct : ∀ check, check.Nodup → guid ∈ check → 1 < check.length →
    (∀ j ∈ check, j = guid ∨ j ∈ queue) →
      st.queue.getCompatibles (concatenateGuids check) = .pending ∨
        Answers env data check (st.queue.getCompatibles (concatenateGuids check))

section Walk

variable {env} {guid : Guid} {st : MatchState} {queue : List Guid}

/-- **The answer for a list with the new entry** is the cached one or that of a check, and is
cached for this list only, among those with the new entry. -/
theorem answer_cases {rest : List Guid} (hnew : guid ∉ rest)
    (hrest : rest ≠ []) (h : ∀ j ∈ guid :: rest, Usable env st.queue.queueDataStore j)
    (hun : Unmatched guid st) :
    ∃ c st', env.answer (guid :: rest) st = (c, st') ∧ env.Searched st st' ∧ c ≠ .badStates ∧
      ((st' = st ∧ st.queue.getCompatibles (concatenateGuids (guid :: rest)) = c ∧
          c ≠ .pending) ∨
        (Answers env st.queue.queueDataStore (guid :: rest) c ∧
          (st'.queue.getCompatibles (concatenateGuids (guid :: rest)) = c ∨
            c = .wrongGroupSize ∧ st' = st))) ∧
      ∀ check, guid ∈ check → concatenateGuids check ≠ concatenateGuids (guid :: rest) →
        st'.queue.getCompatibles (concatenateGuids check) =
          st.queue.getCompatibles (concatenateGuids check) := by
  have hun' := hun (guid :: rest) List.mem_cons_self
  by_cases hpend : st.queue.getCompatibles (concatenateGuids (guid :: rest)) = .pending
  · have hlen : 1 < (guid :: rest).length := by
      have := List.length_pos_iff.mpr hrest
      simpa using this
    obtain ⟨hanswer, hcache, hnoted⟩ := checkCompatibility_answers hlen h
    have hsearch := searched_checkCompatibility env (guid :: rest) st
    have hbad : (env.checkCompatibility (guid :: rest) st).1 ≠ .badStates := by
      rintro heq
      rw [heq] at hanswer
      rcases hanswer with ⟨h, -⟩ | ⟨h, -⟩ | ⟨h, -⟩ <;> cases h
    have heq : env.answer (guid :: rest) st = env.checkCompatibility (guid :: rest) st := by
      simp only [answer, cachedOrChecked, hpend]
      generalize env.checkCompatibility (guid :: rest) st = result at hbad
      obtain ⟨c, st'⟩ := result
      cases c <;> first | rfl | exact absurd rfl hbad
    refine ⟨(env.checkCompatibility (guid :: rest) st).1,
      (env.checkCompatibility (guid :: rest) st).2, heq, hsearch, hbad,
      .inr ⟨hanswer, ?_⟩, fun check hmem hkey => ?_⟩
    · rcases hnoted with hnoted | hlong
      · exact .inl hnoted
      · rw [hlong]
        exact .inr ⟨rfl, rfl⟩
    · rw [LFGQueue.getCompatibles, LFGQueue.getCompatibles, hcache]
      rintro check' hsuffix hkey'
      -- a shorter end of the list does not have the new entry
      rcases List.suffix_cons_iff.mp hsuffix with rfl | hsuffix
      · exact hkey hkey'
      · exact hnew (hsuffix.subset ((concatenateGuids_eq_iff.mp hkey' guid).mp hmem))
  · have heq : env.answer (guid :: rest) st =
        (st.queue.getCompatibles (concatenateGuids (guid :: rest)), st) := by
      simp only [answer, cachedOrChecked]
      generalize st.queue.getCompatibles (concatenateGuids (guid :: rest)) = c at hun' hpend
      cases c <;> first | rfl | exact absurd rfl hpend | exact absurd rfl hun'.2
    exact ⟨_, _, heq, Searched.refl st, hun'.2, .inl ⟨rfl, rfl, hpend⟩, fun _ _ _ => rfl⟩

theorem Unmatched.of_answer {check : List Guid} {st' : MatchState} {c : LfgCompatibility}
    (hun : Unmatched guid st) (hc : c ≠ .matched) (hbad : c ≠ .badStates)
    (hsame : st' = st ∨ st'.queue.getCompatibles (concatenateGuids check) = c)
    (hother : ∀ check', guid ∈ check' → concatenateGuids check' ≠ concatenateGuids check →
      st'.queue.getCompatibles (concatenateGuids check') =
        st.queue.getCompatibles (concatenateGuids check')) : Unmatched guid st' := by
  rintro check' hmem
  rcases hsame with rfl | hsame
  · exact hun check' hmem
  · by_cases hkey : concatenateGuids check' = concatenateGuids check
    · rw [hkey, hsame]
      exact ⟨hc, hbad⟩
    · rw [hother check' hmem hkey]
      exact hun check' hmem

/-- **A walk that has chosen an entry twice finds nothing.** -/
theorem firstFit_of_not_nodup (hnew : guid ∉ queue)
    (h : ∀ j, j = guid ∨ j ∈ queue → Usable env data j) (all : List Guid) :
    ∀ {chosen : List Guid} {st : MatchState}, (∀ j ∈ all, j ∈ queue) → (∀ j ∈ chosen, j ∈ queue) →
      ¬(guid :: chosen).Nodup → SameEntries data st.queue.queueDataStore → Unmatched guid st →
        (env.firstFit (guid :: chosen) all st).1 ≠ .matched := by
  induction all with
  | nil => exact fun _ _ _ _ _ => by simp [firstFit]
  | cons j all ih =>
    rintro chosen st hall hchosen hdup hsame hun
    have hall' : ∀ k ∈ all, k ∈ queue := fun k hk => hall k (List.mem_cons_of_mem _ hk)
    have hrest : ∀ k ∈ chosen ++ [j], k ∈ queue := by
      rintro k hk
      rcases List.mem_append.mp hk with hk | hk
      · exact hchosen k hk
      · exact List.mem_singleton.mp hk ▸ hall j List.mem_cons_self
    have husable : ∀ k ∈ guid :: (chosen ++ [j]), Usable env st.queue.queueDataStore k := by
      rintro k hk
      exact (h k ((List.mem_cons.mp hk).imp_right (hrest k))).congr hsame
    have hdup' : ¬(guid :: (chosen ++ [j])).Nodup := fun hnodup =>
      hdup (hnodup.sublist ((List.sublist_append_left chosen [j]).cons_cons guid))
    obtain ⟨c, st', heq, hsearch, hbad, hcases, hother⟩ :=
      answer_cases (fun hmem => hnew (hrest guid hmem)) (by simp) husable hun
    have hmatched : c ≠ .matched := by
      rcases hcases with ⟨-, hcached, -⟩ | ⟨hanswer, -⟩
      · rw [← hcached]
        exact (hun _ List.mem_cons_self).1
      · rintro rfl
        rcases hanswer with ⟨h, -⟩ | ⟨-, hfull⟩ | ⟨h, -⟩
        · cases h
        · exact hdup' (hfull.toCompatible.nodup_of_usable husable)
        · cases h
    have hsame' := hsame.trans hsearch.same
    have hun' : Unmatched guid st' := by
      refine hun.of_answer hmatched hbad ?_ hother
      rcases hcases with ⟨rfl, -⟩ | ⟨-, hnoted | ⟨-, rfl⟩⟩
      · exact .inl rfl
      · exact .inr hnoted
      · exact .inl rfl
    rw [← List.cons_append] at heq
    by_cases hless : c = .withLessPlayers
    · rw [firstFit_cons_take (hless ▸ heq)]
      exact ih hall' hrest hdup' hsame' hun'
    · rw [firstFit_cons_skip heq hmatched hless]
      exact ih hall' hchosen hdup hsame' hun'

theorem WalkInv.correct_of_answer {chosen check : List Guid} {st' : MatchState}
    {c : LfgCompatibility} (hinv : WalkInv env data guid queue chosen st)
    (hnodup : check.Nodup) (hc : Answers env data check c)
    (hsame : st' = st ∨ st'.queue.getCompatibles (concatenateGuids check) = c)
    (hother : ∀ check', guid ∈ check' → concatenateGuids check' ≠ concatenateGuids check →
      st'.queue.getCompatibles (concatenateGuids check') =
        st.queue.getCompatibles (concatenateGuids check')) :
    ∀ check', check'.Nodup → guid ∈ check' → 1 < check'.length →
      (∀ j ∈ check', j = guid ∨ j ∈ queue) →
        st'.queue.getCompatibles (concatenateGuids check') = .pending ∨
          Answers env data check' (st'.queue.getCompatibles (concatenateGuids check')) := by
  rintro check' hnodup' hmem hlen hqueue
  rcases hsame with rfl | hsame
  · exact hinv.correct check' hnodup' hmem hlen hqueue
  · by_cases hkey : concatenateGuids check' = concatenateGuids check
    · -- the same guids, in another order
      have hperm : check'.Perm check :=
        (List.perm_ext_iff_of_nodup hnodup' hnodup).mpr (concatenateGuids_eq_iff.mp hkey)
      rw [hkey, hsame]
      exact .inr (hc.perm hperm)
    · rw [hother check' hmem hkey]
      exact hinv.correct check' hnodup' hmem hlen hqueue

/-- **What the walk finds**: a full group that it chooses entry by entry. -/
theorem firstFit_matched_iff (hnew : guid ∉ queue)
    (h : ∀ j, j = guid ∨ j ∈ queue → Usable env data j) (all : List Guid) :
    ∀ {chosen : List Guid} {st : MatchState}, (∀ j ∈ all, j ∈ queue) → (∀ j ∈ chosen, j ∈ queue) →
      (guid :: chosen).Nodup → WalkInv env data guid queue chosen st →
        ((env.firstFit (guid :: chosen) all st).1 = .matched ↔
          ∃ more, more.Sublist all ∧ more ≠ [] ∧ FirstFit env data (guid :: chosen) all more ∧
            FullGroup env data (guid :: chosen ++ more)) := by
  induction all with
  | nil =>
    rintro chosen st - - - -
    simp only [firstFit, reduceCtorEq, false_iff]
    rintro ⟨more, hsub, hne, -⟩
    exact hne (List.sublist_nil.mp hsub)
  | cons j all ih =>
    rintro chosen st hall hchosen hnodup hinv
    have hj : j ∈ queue := hall j List.mem_cons_self
    have hall' : ∀ k ∈ all, k ∈ queue := fun k hk => hall k (List.mem_cons_of_mem _ hk)
    have hrest : ∀ k ∈ chosen ++ [j], k ∈ queue := by
      rintro k hk
      rcases List.mem_append.mp hk with hk | hk
      · exact hchosen k hk
      · exact List.mem_singleton.mp hk ▸ hj
    have hmem : ∀ k ∈ guid :: (chosen ++ [j]), k = guid ∨ k ∈ queue :=
      fun k hk => (List.mem_cons.mp hk).imp_right (hrest k)
    have husable : ∀ k ∈ guid :: (chosen ++ [j]), Usable env data k := fun k hk => h k (hmem k hk)
    have husable' : ∀ more, more.Sublist all → ∀ k ∈ guid :: chosen ++ j :: more,
        Usable env data k := by
      rintro more hsub k hk
      have hk' : k ∈ guid :: (chosen ++ [j]) ∨ k ∈ more := by
        simp only [List.mem_cons, List.mem_append, List.cons_append, List.not_mem_nil] at hk ⊢
        tauto
      exact hk'.elim (husable k) fun hk => h k (.inr (hall' k (hsub.subset hk)))
    obtain ⟨c, st', heq, hsearch, hbad, hcases, hother⟩ := answer_cases
      (fun hmem => hnew (hrest guid hmem)) (by simp) (fun k hk => (husable k hk).congr hinv.same)
      hinv.unmatched
    have hsame' := hinv.same.trans hsearch.same
    have heq' : env.answer (guid :: chosen ++ [j]) st = (c, st') := heq
    by_cases hold : j ∈ guid :: chosen
    · -- an entry that is chosen a second time: its list is noted as compatible
      have hdup : ¬(guid :: (chosen ++ [j])).Nodup := by
        rw [← List.cons_append, List.nodup_append]
        exact fun hno => hno.2.2 j hold j List.mem_cons_self rfl
      have hkey : concatenateGuids (guid :: (chosen ++ [j])) =
          concatenateGuids (guid :: chosen) := by
        refine concatenateGuids_eq_iff.mpr fun k => ?_
        grind
      have hcached : c = .withLessPlayers ∧ st' = st := by
        rcases hcases with ⟨rfl, hcached, -⟩ | ⟨hanswer, -⟩
        · exact ⟨by rw [← hcached, hkey, hinv.noted], rfl⟩
        · have hgiven := congrArg Prod.fst heq
          have hans : env.answer (guid :: (chosen ++ [j])) st = (.withLessPlayers, st) := by
            simp only [answer, cachedOrChecked, hkey, hinv.noted]
          rw [heq] at hans
          exact Prod.mk.inj hans
      obtain ⟨rfl, rfl⟩ := hcached
      rw [firstFit_cons_take heq']
      refine iff_of_false ?_ ?_
      · exact firstFit_of_not_nodup hnew h all hall' hrest hdup hsame' hinv.unmatched
      · rintro ⟨more, hsub, hne, hfit, hfull⟩
        cases hfit with
        | done => exact absurd rfl hne
        | take hfit =>
          have hsub' := (List.cons_sublist_cons.mp hsub)
          have hnodup' := hfull.toCompatible.nodup_of_usable (husable' _ hsub')
          rw [List.nodup_append] at hnodup'
          exact hnodup'.2.2 j hold j List.mem_cons_self rfl
        | skip hnot => exact hnot hold
    · have hnodup' : (guid :: (chosen ++ [j])).Nodup := by
        rw [← List.cons_append, List.nodup_append]
        refine ⟨hnodup, List.nodup_singleton j, ?_⟩
        rintro k hk _ hk' rfl
        exact hold (List.mem_singleton.mp hk' ▸ hk)
      have hanswer : Answers env data (guid :: (chosen ++ [j])) c := by
        rcases hcases with ⟨-, hcached, hpend⟩ | ⟨hanswer, -⟩
        · rcases hinv.correct _ hnodup' List.mem_cons_self (by simp) hmem with hc | hc
          · exact absurd (hcached ▸ hc) hpend
          · rwa [hcached] at hc
        · exact hanswer.congr hinv.same.symm
      have hnoted : st' = st ∨
          st'.queue.getCompatibles (concatenateGuids (guid :: (chosen ++ [j]))) = c := by
        rcases hcases with ⟨rfl, -⟩ | ⟨-, hnoted | ⟨-, rfl⟩⟩
        · exact .inl rfl
        · exact .inr hnoted
        · exact .inl rfl
      have hcorrect := hinv.correct_of_answer hnodup' hanswer hnoted hother
      rcases hanswer with ⟨rfl, hcomp, hless⟩ | ⟨rfl, hfull⟩ | ⟨hinc, hpend, hcomp⟩
      · -- the entry is chosen
        have hinv' : WalkInv env data guid queue (chosen ++ [j]) st' := by
          refine ⟨hsame', ?_, hinv.unmatched.of_answer (by simp) hbad hnoted hother, hcorrect⟩
          rcases hcases with ⟨rfl, hcached, -⟩ | ⟨-, hnoted | ⟨hno, -⟩⟩
          · exact hcached
          · exact hnoted
          · cases hno
        rw [firstFit_cons_take heq', List.cons_append, ih hall' hrest hnodup' hinv']
        constructor
        · rintro ⟨more, hsub, hne, hfit, hfull⟩
          refine ⟨j :: more, hsub.cons_cons j, by simp, FirstFit.take hfit, ?_⟩
          simpa using hfull
        · rintro ⟨more, hsub, hne, hfit, hfull⟩
          cases hfit with
          | done => exact absurd rfl hne
          | @take _ _ more _ hfit =>
            refine ⟨more, List.cons_sublist_cons.mp hsub, ?_, hfit, by simpa using hfull⟩
            rintro rfl
            exact absurd hfull.players_eq hless.ne
          | skip _ hnot => exact absurd hcomp hnot
      · -- the entry makes the group full
        rw [firstFit_cons_matched heq']
        refine iff_of_true rfl ⟨[j], List.cons_sublist_cons.mpr (List.nil_sublist _), by simp,
          FirstFit.take (FirstFit.done _ _), hfull⟩
      · -- the entry is passed over
        have hmatched : c ≠ .matched := by
          rintro rfl
          cases hinc
        have hkey :
            concatenateGuids (guid :: chosen) ≠ concatenateGuids (guid :: (chosen ++ [j])) :=
          fun hkey => hold ((concatenateGuids_eq_iff.mp hkey j).mpr (by simp))
        have hinv' : WalkInv env data guid queue chosen st' := by
          refine ⟨hsame', ?_, hinv.unmatched.of_answer hmatched hbad hnoted hother, hcorrect⟩
          rw [hother _ List.mem_cons_self hkey]
          exact hinv.noted
        have hless : c ≠ .withLessPlayers := by
          rintro rfl
          cases hinc
        rw [firstFit_cons_skip heq' hmatched hless, ih hall' hchosen hnodup hinv']
        constructor
        · rintro ⟨more, hsub, hne, hfit, hfull⟩
          exact ⟨more, hsub.cons j, hne, FirstFit.skip hold hcomp hfit, hfull⟩
        · rintro ⟨more, hsub, hne, hfit, hfull⟩
          cases hfit with
          | done => exact absurd rfl hne
          | @take _ _ more _ hfit =>
            refine absurd (hfull.toCompatible.sublist env ?_ (by simp)
              (playersOf_ne_nil (by simp) husable)) hcomp
            rw [← List.cons_append, List.append_sublist_append_left]
            exact List.singleton_sublist.mpr List.mem_cons_self
          | skip _ _ hfit => exact ⟨more, hfit.sublist, hne, hfit, hfull⟩

/-- The answer for the new entry alone: a full group of its own, or compatible with more. -/
theorem answer_single (h : Usable env st.queue.queueDataStore guid)
    (huncached : st.queue.getCompatibles (concatenateGuids [guid]) = .pending) :
    ((st.queue.queueDataStore.get guid).roles.size = maxGroupSize ∧
        (env.answer [guid] st).1 = .matched) ∨
      ((st.queue.queueDataStore.get guid).roles.size ≠ maxGroupSize ∧
        ∃ roles, env.answer [guid] st =
          (.withLessPlayers, st.update (noteLessPlayers [guid] roles))) := by
  have hqueued : env.allQueued [guid] = true := by simpa [allQueued] using h.queued
  obtain ⟨d, hd⟩ := Option.ne_none_iff_exists'.mp h.present
  have hget : st.queue.queueDataStore.get guid = d := get_of_find? hd
  have hverdict := @checkEntries_single env _ _ _ hd (hget ▸ h.size_le)
  have hcheck : env.checkCompatibility [guid] st = env.applyVerdict [guid] st := by
    simp [checkCompatibility, maxGroupSize]
  by_cases hfive : d.roles.size = maxGroupSize
  · rw [if_neg (not_not.mpr hfive)] at hverdict
    refine .inl ⟨hget ▸ hfive, ?_⟩
    simp only [answer, cachedOrChecked, huncached, hcheck, applyVerdict, hverdict, if_pos hqueued]
  · rw [if_pos hfive] at hverdict
    refine .inr ⟨hget ▸ hfive, (checkGroupRoles d.roles).2, ?_⟩
    simp only [answer, cachedOrChecked, huncached, hcheck, applyVerdict, hverdict]

end Walk

/-! ## Every search -/

/-- **When a search finds a group if there is one**: if a full group with the new entry is the
one that the walk chooses. -/
theorem findNewGroups_matched_of_fullGroup_iff (st : MatchState) (guid : Guid) (queue : List Guid)
    (depth : ℕ) (hdepth : 2 * queue.length + 2 ≤ depth) (hnew : guid ∉ queue)
    (h : ∀ j, j = guid ∨ j ∈ queue → Usable env st.queue.queueDataStore j)
    (huncached : ∀ check, guid ∈ check →
      st.queue.compatibleMapStore.find? (concatenateGuids check) = none) :
    ((∃ chosen, chosen.Sublist queue ∧
          FullGroup env st.queue.queueDataStore (guid :: chosen)) →
        (env.findNewGroups depth [guid] queue st).1 = .matched) ↔
      ((∃ chosen, chosen.Sublist queue ∧
          FullGroup env st.queue.queueDataStore (guid :: chosen)) →
        ∃ chosen, chosen.Sublist queue ∧
          FullGroup env st.queue.queueDataStore (guid :: chosen) ∧
          FirstFit env st.queue.queueDataStore [guid] queue chosen) := by
  have hpending : ∀ check, guid ∈ check →
      st.queue.getCompatibles (concatenateGuids check) = .pending := fun check hmem => by
    rw [LFGQueue.getCompatibles, huncached check hmem]
  have hplayers : ∀ chosen, (playersOf st.queue.queueDataStore (guid :: chosen)).length =
      (st.queue.queueDataStore.get guid).roles.size +
        (playersOf st.queue.queueDataStore chosen).length := fun chosen => by
    rw [playersOf, List.flatMap_cons, List.length_append, length_keys, playersOf]
  rw [findNewGroups_eq env hdepth]
  refine imp_congr_right fun hexists => ?_
  obtain ⟨full, hsub, hfull⟩ := hexists
  rcases answer_single (h guid (.inl rfl)) (hpending _ List.mem_cons_self) with
    ⟨hfive, hanswer⟩ | ⟨hfive, roles, hanswer⟩
  · -- the new entry is a full group of its own, and nobody else fits in
    have hmatched : (env.searchFrom [guid] queue st).1 = .matched := by
      generalize hresult : env.answer [guid] st = result at hanswer
      obtain ⟨_, st'⟩ := result
      cases hanswer
      rw [searchFrom, hresult]
    have hempty : full = [] := by
      have hcount := hfull.players_eq
      have hle := length_le_playersOf fun j hj => h j (.inr (hsub.subset hj))
      rw [hplayers, hfive] at hcount
      exact List.length_eq_zero_iff.mp (by omega)
    subst hempty
    exact iff_of_true hmatched ⟨[], hsub, hfull, FirstFit.done _ _⟩
  · have hkey : ∀ check, concatenateGuids check ≠ concatenateGuids [guid] →
        (st.update (noteLessPlayers [guid] roles)).queue.getCompatibles (concatenateGuids check) =
          st.queue.getCompatibles (concatenateGuids check) := by
      rintro check hne
      simp only [MatchState.update, LFGQueue.getCompatibles, noteLessPlayers_compatibleMapStore]
      rw [find?_set_of_ne _ _ hne]
    have hnoted : (st.update (noteLessPlayers [guid] roles)).queue.getCompatibles
        (concatenateGuids [guid]) = .withLessPlayers := by
      simp [MatchState.update, LFGQueue.getCompatibles, noteLessPlayers_compatibleMapStore]
    have hinv : WalkInv env st.queue.queueDataStore guid queue []
        (st.update (noteLessPlayers [guid] roles)) := by
      refine ⟨sameEntries_noteLessPlayers _ _ _, hnoted, fun check hmem => ?_,
        fun check hnodup hmem hlen _ => .inl ?_⟩
      · by_cases hne : concatenateGuids check = concatenateGuids [guid]
        · rw [hne, hnoted]
          simp
        · rw [hkey check hne, hpending check hmem]
          simp
      · have hne : concatenateGuids check ≠ concatenateGuids [guid] := by
          intro heq
          have hperm : check.Perm [guid] :=
            (List.perm_ext_iff_of_nodup hnodup (List.nodup_singleton guid)).mpr
              (concatenateGuids_eq_iff.mp heq)
          rw [hperm.length_eq] at hlen
          exact absurd hlen (by simp)
        rw [hkey check hne, hpending check hmem]
    have hsearch : env.searchFrom [guid] queue st =
        env.firstFit [guid] queue (st.update (noteLessPlayers [guid] roles)) := by
      rw [searchFrom, hanswer]
    rw [hsearch, firstFit_matched_iff hnew h queue (fun _ hj => hj) (by simp)
      (List.nodup_singleton guid) hinv]
    constructor
    · rintro ⟨chosen, hsub, -, hfit, hfull⟩
      exact ⟨chosen, hsub, hfull, hfit⟩
    · rintro ⟨chosen, hsub, hfull, hfit⟩
      refine ⟨chosen, hsub, ?_, hfit, hfull⟩
      rintro rfl
      have := hfull.players_eq
      rw [hplayers] at this
      exact hfive this

/-- A tank for two dungeons is new; a damage dealer for one of them waits before the healer and
the damage dealers for the other. -/
def sixPlayers : MatchState :=
  (joinedQueue [(1, 0x02, [1, 2]), (2, 0x08, [1]), (3, 0x04, [2]), (4, 0x08, [2]), (5, 0x08, [2]),
    (6, 0x08, [2])]).update fun queue =>
      { queue with currentQueueStore := [2, 3, 4, 5, 6], newToQueueStore := [] }

theorem usable_sixPlayers :
    ∀ j ∈ [1, 2, 3, 4, 5, 6], Usable allQueuedEnv sixPlayers.queue.queueDataStore j := by
  decide +kernel

theorem fullGroup_sixPlayers :
    FullGroup allQueuedEnv sixPlayers.queue.queueDataStore [1, 3, 4, 5, 6] :=
  ⟨⟨by decide +kernel, by decide +kernel, by decide +kernel, by decide +kernel,
    by decide +kernel, by decide +kernel⟩, by decide +kernel⟩

/-- With the healer in front the walk passes over the other damage dealer. -/
theorem findNewGroups_matched_of_fullGroup_iff_sixPlayers :
    (allQueuedEnv.findNewGroups 12 [1] [3, 2, 4, 5, 6] sixPlayers).1 = .matched := by
  have hfull : ∃ chosen, chosen.Sublist [3, 2, 4, 5, 6] ∧
      FullGroup allQueuedEnv sixPlayers.queue.queueDataStore (1 :: chosen) :=
    ⟨[3, 4, 5, 6], by decide, fullGroup_sixPlayers⟩
  have hapart : ¬Compatible allQueuedEnv sixPlayers.queue.queueDataStore [1, 3, 2] :=
    fun hcomp => hcomp.dungeons (by decide +kernel)
  refine (findNewGroups_matched_of_fullGroup_iff allQueuedEnv sixPlayers 1 [3, 2, 4, 5, 6] 12
    (by decide) (by decide) (fun j hj => usable_sixPlayers j ?_) fun _ _ => rfl).mpr
    (fun _ => ⟨[3, 4, 5, 6], by decide, fullGroup_sixPlayers, ?_⟩) hfull
  · simp only [List.mem_cons, List.not_mem_nil, or_false] at hj ⊢
    tauto
  · exact .take (.skip (by decide) hapart (.take (.take (.take (.done _ _)))))

/-- **A full group that is not found**: the damage dealer for the other dungeon takes the place
of the four that would do. -/
theorem findNewGroups_misses_fullGroup :
    (∀ j ∈ [1, 2, 3, 4, 5, 6], Usable allQueuedEnv sixPlayers.queue.queueDataStore j) ∧
      sixPlayers.queue.compatibleMapStore = OrderedMap.empty ∧
      [3, 4, 5, 6].Sublist sixPlayers.queue.currentQueueStore ∧
      FullGroup allQueuedEnv sixPlayers.queue.queueDataStore [1, 3, 4, 5, 6] ∧
      (allQueuedEnv.findNewGroups 12 [1] sixPlayers.queue.currentQueueStore sixPlayers).1 ≠
        .matched :=
  ⟨usable_sixPlayers, rfl, by decide, fullGroup_sixPlayers, by decide +kernel⟩

end QueueEnv

end TeraCore
