import TeraCore.Quests.LogConsistency

/-!
# Earlier quests

A quest can ask for one of several earlier quests.  A positive number asks that the quest was
rewarded, a negative one that it is active.  When that quest is in a negative exclusive group, the
whole group must be so.

The first earlier quest that is in the state asked for decides.  If others of its group are not, the
answer is no, whatever stands behind it in the list.  And of a negative number, it is the
other quests of the group that are active that make the answer no.

## Main results

* `QuestLog.satisfyQuestPreviousQuest_iff`: when the test tells in every order what is asked for
-/

namespace TeraCore.Quests

open Commons

namespace QuestLog

variable (tmpl : QuestTemplates) (l : QuestLog)

/-- One turn of the loop: the earlier quest decides the answer, or the next one is looked at. -/
def previousQuestAnswer (prev : ℤ) : Option Bool :=
  let prevId := prev.natAbs
  match tmpl.GetQuestTemplate prevId with
  | none => none
  | some qPrevInfo =>
    if 0 < prev ∧ prevId ∈ l.m_RewardedQuests then
      some (0 ≤ qPrevInfo.ExclusiveGroup ||
        (tmpl.mExclusiveQuestGroups qPrevInfo.ExclusiveGroup).all fun exclude_Id =>
          exclude_Id == prevId || exclude_Id ∈ l.m_RewardedQuests)
    else if prev < 0 ∧ l.GetQuestStatus tmpl prevId ≠ .NONE then
      some (0 ≤ qPrevInfo.ExclusiveGroup ||
        (tmpl.mExclusiveQuestGroups qPrevInfo.ExclusiveGroup).all fun exclude_Id =>
          exclude_Id == prevId || l.GetQuestStatus tmpl exclude_Id == .NONE)
    else none

/-- **`SatisfyQuestPreviousQuest`** of a quest with these earlier quests.  The assertion in the loop
never fails: see `QuestTemplates.grouped`. -/
def SatisfyQuestPreviousQuest (prevQuests : List ℤ) : Bool :=
  prevQuests.isEmpty || (prevQuests.findSome? (l.previousQuestAnswer tmpl)).getD false

/-! ## What is asked for -/

def IsActive (id : ℕ) : Prop := l.GetQuestStatus tmpl id ≠ .NONE

/-- The earlier quest exists and is in the state that is asked for. -/
def IsOpen (prev : ℤ) (q : Quest) : Prop :=
  tmpl.GetQuestTemplate prev.natAbs = some q ∧
    (0 < prev ∧ prev.natAbs ∈ l.m_RewardedQuests ∨ prev < 0 ∧ l.IsActive tmpl prev.natAbs)

/-- The earlier quest, and all of its group when that is negative, are in the state asked for. -/
def Meets (prev : ℤ) : Prop :=
  ∃ q, l.IsOpen tmpl prev q ∧ (q.ExclusiveGroup < 0 →
    ∀ id ∈ tmpl.mExclusiveQuestGroups q.ExclusiveGroup,
      if 0 < prev then id ∈ l.m_RewardedQuests else l.IsActive tmpl id)

/-- **What a list of earlier quests asks for.** -/
def MeetsPrerequisites (prevQuests : List ℤ) : Prop :=
  prevQuests = [] ∨ ∃ prev ∈ prevQuests, l.Meets tmpl prev

/-- Of the earlier quests that are open and in a negative group: some quest of the list is met just
when the group was all rewarded, or, for a negative number, when no other of the group is active. -/
def Agreeing (prevQuests : List ℤ) : Prop :=
  ∀ prev ∈ prevQuests, ∀ q, l.IsOpen tmpl prev q → q.ExclusiveGroup < 0 →
    ((∃ p ∈ prevQuests, l.Meets tmpl p) ↔
      ∀ id ∈ tmpl.mExclusiveQuestGroups q.ExclusiveGroup,
        if 0 < prev then id ∈ l.m_RewardedQuests
        else id = prev.natAbs ∨ ¬ l.IsActive tmpl id)

/-! ## The turns of the loop -/

variable {tmpl l} {prev : ℤ} {q : Quest}

theorem IsOpen.answer (h : l.IsOpen tmpl prev q) :
    ∃ b, l.previousQuestAnswer tmpl prev = some b ∧
      (b = true ↔ (q.ExclusiveGroup < 0 →
        ∀ id ∈ tmpl.mExclusiveQuestGroups q.ExclusiveGroup,
          if 0 < prev then id ∈ l.m_RewardedQuests
          else id = prev.natAbs ∨ ¬ l.IsActive tmpl id)) := by
  obtain ⟨hq, ⟨hpos, hrewarded⟩ | ⟨hneg, hactive⟩⟩ := h
  · refine ⟨_, by rw [previousQuestAnswer, hq]; exact if_pos ⟨hpos, hrewarded⟩, ?_⟩
    rw [Bool.or_eq_true, decide_eq_true_eq, List.all_eq_true, ← not_lt, ← imp_iff_not_or]
    refine imp_congr_right fun _ => forall₂_congr fun id _ => ?_
    rw [if_pos hpos, Bool.or_eq_true, beq_iff_eq, decide_eq_true_eq]
    constructor
    · rintro (rfl | h)
      · exact hrewarded
      · exact h
    · exact .inr
  · have hnot : ¬ (0 < prev ∧ prev.natAbs ∈ l.m_RewardedQuests) := fun h => lt_asymm hneg h.1
    refine ⟨_, by rw [previousQuestAnswer, hq]; exact (if_neg hnot).trans (if_pos ⟨hneg, hactive⟩),
      ?_⟩
    rw [Bool.or_eq_true, decide_eq_true_eq, List.all_eq_true, ← not_lt, ← imp_iff_not_or]
    refine imp_congr_right fun _ => forall₂_congr fun id _ => ?_
    rw [if_neg (lt_asymm hneg), Bool.or_eq_true, beq_iff_eq, beq_iff_eq, IsActive, not_not]

theorem isOpen_of_answer {b : Bool} (h : l.previousQuestAnswer tmpl prev = some b) :
    ∃ q, l.IsOpen tmpl prev q := by
  unfold previousQuestAnswer at h
  dsimp only at h
  split at h
  · cases h
  · rename_i q hq
    split_ifs at h with hpos hneg
    · exact ⟨q, hq, .inl hpos⟩
    · exact ⟨q, hq, .inr hneg⟩

theorem Agreeing.answer {prevQuests : List ℤ} (hagree : l.Agreeing tmpl prevQuests) {b : Bool}
    (hprev : prev ∈ prevQuests) (h : l.previousQuestAnswer tmpl prev = some b) :
    b = true ↔ ∃ p ∈ prevQuests, l.Meets tmpl p := by
  obtain ⟨q, hopen⟩ := isOpen_of_answer h
  obtain ⟨b', hb', hiff⟩ := hopen.answer
  obtain rfl : b' = b := Option.some.inj (hb'.symm.trans h)
  rw [hiff]
  by_cases hgroup : q.ExclusiveGroup < 0
  · rw [hagree prev hprev q hopen hgroup]
    exact ⟨fun h => h hgroup, fun h _ => h⟩
  · -- a quest in no such group decides alone, and is met
    have hmeets : l.Meets tmpl prev := ⟨q, hopen, fun h => absurd h hgroup⟩
    exact iff_of_true (fun h => absurd h hgroup) ⟨prev, hprev, hmeets⟩

/-- **The test tells in every order what the earlier quests ask for** just when they agree. -/
theorem satisfyQuestPreviousQuest_iff (tmpl : QuestTemplates) (l : QuestLog)
    (prevQuests : List ℤ) :
    (∀ list : List ℤ, list.Perm prevQuests →
      (l.SatisfyQuestPreviousQuest tmpl list = true ↔ l.MeetsPrerequisites tmpl prevQuests)) ↔
      l.Agreeing tmpl prevQuests := by
  constructor
  · intro h prev hprev q hopen hgroup
    -- the quest is put in front
    obtain ⟨b, hb, hiff⟩ := hopen.answer
    have hfront := h _ (List.perm_cons_erase hprev).symm
    rw [SatisfyQuestPreviousQuest, List.findSome?_cons, hb, MeetsPrerequisites,
      or_iff_right (List.ne_nil_of_mem hprev)] at hfront
    rw [← hfront]
    exact hiff.trans ⟨fun h => h hgroup, fun h _ => h⟩
  · intro hagree list hperm
    rw [SatisfyQuestPreviousQuest, MeetsPrerequisites, Bool.or_eq_true, List.isEmpty_iff,
      ← List.length_eq_zero_iff, hperm.length_eq, List.length_eq_zero_iff]
    refine or_congr_right ?_
    cases hfirst : list.findSome? (l.previousQuestAnswer tmpl) with
    | some b =>
      obtain ⟨prev, hprev, hb⟩ := List.exists_of_findSome?_eq_some hfirst
      exact hagree.answer (hperm.mem_iff.mp hprev) hb
    | none =>
      refine iff_of_false Bool.false_ne_true ?_
      rintro ⟨prev, hprev, q, hopen, -⟩
      obtain ⟨b, hb, -⟩ := hopen.answer
      rw [List.findSome?_eq_none_iff.mp hfirst prev (hperm.mem_iff.mpr hprev)] at hb
      cases hb

/-! ## A group that is rewarded in part -/

/-- The quests 1 and 2 are in a group that is done as a whole, the others in none. -/
def pairedQuests : QuestTemplates where
  GetQuestTemplate id :=
    if id = 0 then none
    else some { plainQuest id 0 with ExclusiveGroup := if id ≤ 2 then -1 else 0 }
  mExclusiveQuestGroups group := if group = -1 then [1, 2] else []
  zero := rfl
  questId id q hq := by
    split at hq
    · cases hq
    · rw [← Option.some.inj hq]
      rfl
  grouped id q hq hgroup := by
    split at hq
    · cases hq
    · rw [← Option.some.inj hq] at hgroup ⊢
      by_cases hid : id ≤ 2
      · have hpair : id = 1 ∨ id = 2 := by omega
        rw [if_pos (if_pos hid)]
        exact List.mem_pair.mpr hpair
      · exact absurd (if_neg hid) hgroup

/-- A player who was rewarded for the quests 1 and 3. -/
def partlyRewarded : QuestLog :=
  { fresh fun _ => 0 with m_RewardedQuests := (OrderedSet.empty.insert 1).insert 3 }

/-- The quest 3 alone is enough, but not behind the quest 1. -/
theorem satisfyQuestPreviousQuest_partlyRewarded :
    partlyRewarded.MeetsPrerequisites pairedQuests [1, 3] ∧
      partlyRewarded.SatisfyQuestPreviousQuest pairedQuests [1, 3] = false ∧
      partlyRewarded.SatisfyQuestPreviousQuest pairedQuests [3, 1] = true := by
  refine ⟨.inr ⟨3, by decide, _, ⟨rfl, .inl ⟨by decide, by decide⟩⟩, ?_⟩, by decide, by decide⟩
  intro hgroup
  exact absurd hgroup (by decide)

end QuestLog

end TeraCore.Quests
