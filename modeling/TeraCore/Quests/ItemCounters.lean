import TeraCore.Quests.LogConsistency

/-!
# Counters of quest items

A quest that requires items counts them up to the number that it requires.  A change of the items is
reported to one objective of one quest, the first of the log that has to do with the item; what is
taken from an incomplete quest is taken from its counter, and what is taken from a complete one from
what is owned and reduced by what was owned beyond the requirement.

So the counters stay right when every other objective of the item has all it needs before and after
the change, and the first one has no more than it needs.

## Main results

* `countersRight_run`: the counters are right after every run of such changes
-/

namespace TeraCore.Quests.QuestLog

open Commons OrderedMap

variable {tmpl : QuestTemplates} {l : QuestLog} {ch : Character} {id : ℕ} {q : Quest}
  {d : QuestStatusData} {j : Fin QUEST_ITEM_OBJECTIVES_COUNT} {entry count : ℕ}

/-- **The counters of a quest are right**, and when it is complete it has what it requires. -/
structure Counts (q : Quest) (d : QuestStatusData) (items : ℕ → ℕ) : Prop where
  counter : d.Status = .INCOMPLETE ∨ d.Status = .COMPLETE →
    ∀ j, d.ItemCount j = min (items (q.RequiredItemId j)) (q.RequiredItemCount j)
  required : d.Status = .COMPLETE → ∀ j, q.RequiredItemCount j ≤ items (q.RequiredItemId j)

/-- A quest of the log that requires items and is not being rewarded. -/
structure Delivers (tmpl : QuestTemplates) (l : QuestLog) (id : ℕ) (q : Quest) : Prop where
  inLog : l.InLog id
  notRewarding : id ∉ l.rewarding
  template : tmpl.GetQuestTemplate id = some q
  deliver : q.HasFlag QUEST_TRINITY_FLAGS_DELIVER = true

variable (tmpl l)

/-- The counters of all quests of the log are right. -/
def Tracks : Prop :=
  ∀ id q d, Delivers tmpl l id q → l.m_QuestStatus.find? id = some d → Counts q d l.items

/-! ## The objective to which a change is reported -/

def targetIn (tmpl : QuestTemplates) (l : QuestLog) (p : ℕ → Bool) (entry : ℕ) :
    List (Fin MAX_QUEST_LOG_SIZE) → Option (ℕ × Quest × Fin QUEST_ITEM_OBJECTIVES_COUNT)
  | [] => none
  | i :: slots =>
    if l.slots i = 0 ∨ p (l.slots i) = false then targetIn tmpl l p entry slots
    else match objectiveFor tmpl (l.slots i) entry with
      | none => targetIn tmpl l p entry slots
      | some (q, j) => some (l.slots i, q, j)

/-- **The first quest of the log** that has to do with an item, and its first objective that has. -/
def target (p : ℕ → Bool) (entry : ℕ) : Option (ℕ × Quest × Fin QUEST_ITEM_OBJECTIVES_COUNT) :=
  targetIn tmpl l p entry (List.finRange MAX_QUEST_LOG_SIZE)

variable {tmpl l}

def isIncomplete (l : QuestLog) (id : ℕ) : Bool := (l.questStatus id).Status == .INCOMPLETE

theorem objectiveFor_eq_some (h : objectiveFor tmpl id entry = some (q, j)) :
    tmpl.GetQuestTemplate id = some q ∧ q.HasFlag QUEST_TRINITY_FLAGS_DELIVER = true ∧
      q.RequiredItemId j = entry := by
  unfold objectiveFor at h
  cases hq : tmpl.GetQuestTemplate id with
  | none =>
    rw [hq] at h
    cases h
  | some q' =>
    rw [hq] at h
    dsimp only at h
    split at h
    · rename_i hflag
      obtain ⟨j', hj', heq⟩ := Option.map_eq_some_iff.mp h
      cases heq
      refine ⟨rfl, hflag, ?_⟩
      simpa using List.find?_some hj'
    · cases h

theorem objectiveFor_eq_none (h : objectiveFor tmpl id entry = none)
    (hq : tmpl.GetQuestTemplate id = some q) (hflag : q.HasFlag QUEST_TRINITY_FLAGS_DELIVER = true)
    (j : Fin QUEST_ITEM_OBJECTIVES_COUNT) : q.RequiredItemId j ≠ entry := by
  unfold objectiveFor at h
  rw [hq] at h
  dsimp only at h
  rw [if_pos hflag, Option.map_eq_none_iff] at h
  simpa using List.find?_eq_none.mp h j (List.mem_finRange j)

variable {p : ℕ → Bool} {owned entry' r : ℕ}

theorem targetIn_eq_some {slots : List (Fin MAX_QUEST_LOG_SIZE)}
    (h : targetIn tmpl l p entry slots = some (id, q, j)) :
    l.InLog id ∧ id ≠ 0 ∧ p id = true ∧ objectiveFor tmpl id entry = some (q, j) := by
  induction slots with
  | nil => cases h
  | cons i slots ih =>
    unfold targetIn at h
    split at h
    · exact ih h
    · rename_i hslot
      obtain ⟨hne, hp⟩ := not_or.mp hslot
      split at h
      · exact ih h
      · rename_i q' j' hobj
        cases h
        exact ⟨⟨i, rfl⟩, hne, Bool.not_eq_false _ ▸ hp, hobj⟩

theorem targetIn_eq_none {slots : List (Fin MAX_QUEST_LOG_SIZE)}
    (h : targetIn tmpl l p entry slots = none) {i : Fin MAX_QUEST_LOG_SIZE} (hi : i ∈ slots)
    (hne : l.slots i ≠ 0) (hp : p (l.slots i) = true) :
    objectiveFor tmpl (l.slots i) entry = none := by
  induction slots with
  | nil => cases hi
  | cons i' slots ih =>
    unfold targetIn at h
    rcases List.mem_cons.mp hi with rfl | hi
    · rw [if_neg (by rw [hp]; simp [hne])] at h
      split at h
      · assumption
      · cases h
    · split at h
      · exact ih h hi
      · split at h
        · exact ih h hi
        · cases h

theorem item_ne_of_target_eq_none (h : target tmpl l p entry = none)
    (hd : Delivers tmpl l id q) (hp : p id = true) (j : Fin QUEST_ITEM_OBJECTIVES_COUNT) :
    q.RequiredItemId j ≠ entry := by
  obtain ⟨i, hi⟩ := hd.inLog
  subst hi
  exact objectiveFor_eq_none (targetIn_eq_none h (List.mem_finRange i)
    (ne_zero_of_template hd.template) hp) hd.template hd.deliver j

theorem ItemAddedQuestCheck_eq (h : Kept tmpl l) :
    l.ItemAddedQuestCheck tmpl ch entry count = (target tmpl l l.isIncomplete entry).elim l fun x =>
      (l.setQuestStatusData x.1 (addToCounter x.2.1 x.2.2 count (l.questStatus x.1))).completeIfDone
        tmpl ch x.1 := by
  unfold ItemAddedQuestCheck target
  induction List.finRange MAX_QUEST_LOG_SIZE with
  | nil => rfl
  | cons i slots ih =>
    unfold QuestLog.itemAddedLoop targetIn
    dsimp only
    by_cases hne : l.slots i = 0
    · rw [if_pos hne, if_pos (.inl hne)]
      exact ih
    · rw [if_neg hne, setQuestStatusData_self (h.active i hne)]
      by_cases hinc : (l.questStatus (l.slots i)).Status = .INCOMPLETE
      · have hp : ¬(l.slots i = 0 ∨ l.isIncomplete (l.slots i) = false) := by
          simp [hne, isIncomplete, hinc]
        rw [if_neg (not_not_intro hinc), if_neg hp]
        cases objectiveFor tmpl (l.slots i) entry with
        | none => exact ih
        | some x => rfl
      · have hp : l.slots i = 0 ∨ l.isIncomplete (l.slots i) = false := by
          simp [isIncomplete, hinc]
        rw [if_pos hinc, if_pos hp]
        exact ih

theorem ItemRemovedQuestCheck_eq :
    l.ItemRemovedQuestCheck tmpl entry count =
      (target tmpl l (fun _ => true) entry).elim l fun x =>
        l.takeFromCounter tmpl x.1 x.2.1 x.2.2 entry count := by
  unfold ItemRemovedQuestCheck target
  induction List.finRange MAX_QUEST_LOG_SIZE with
  | nil => rfl
  | cons i slots ih =>
    unfold QuestLog.itemRemovedLoop targetIn
    by_cases hne : l.slots i = 0
    · rw [if_pos hne, if_pos (.inl hne)]
      exact ih
    · rw [if_neg hne, if_neg (by simp [hne])]
      cases objectiveFor tmpl (l.slots i) entry with
      | none => exact ih
      | some x => rfl

/-! ## Statuses -/

theorem Delivers.active (hd : Delivers tmpl l id q) (h : Kept tmpl l) : l.Active id :=
  h.active_of_inLog hd.inLog (ne_zero_of_template hd.template)

section

variable (h : Tracks tmpl l)
include h

theorem Tracks.setData (hid : ∀ q, Delivers tmpl l id q → Counts q d l.items) :
    Tracks tmpl (l.setQuestStatusData id d) := by
  intro id' q d' hset hd'
  have hdel : Delivers tmpl l id' q := ⟨hset.1, hset.2, hset.3, hset.4⟩
  rw [setQuestStatusData, find?_set] at hd'
  by_cases heq : id' = id
  · subst heq
    rw [if_pos rfl] at hd'
    rw [← Option.some.inj hd']
    exact hid q hdel
  · rw [if_neg heq] at hd'
    exact h id' q d' hdel hd'

theorem Tracks.of_fewer {l' : QuestLog} (hitems : l'.items = l.items)
    (hfewer : ∀ id q, Delivers tmpl l' id q →
      Delivers tmpl l id q ∧ l'.m_QuestStatus.find? id = l.m_QuestStatus.find? id) :
    Tracks tmpl l' := by
  intro id q d hdel hd
  obtain ⟨hdel, hsame⟩ := hfewer id q hdel
  rw [hitems]
  exact h id q d hdel (hsame ▸ hd)

theorem Tracks.beginReward (id : ℕ) : Tracks tmpl (l.beginReward id) :=
  h.of_fewer rfl fun _ _ hdel =>
    ⟨⟨hdel.1, fun hmem => hdel.2 (List.mem_cons_of_mem _ hmem), hdel.3, hdel.4⟩, rfl⟩

theorem Tracks.counts (hkept : Kept tmpl l) (hdel : Delivers tmpl l id q) :
    Counts q (l.questStatus id) l.items := by
  obtain ⟨d, hd⟩ := hdel.active hkept
  rw [questStatus_of_find? hd]
  exact h id q d hdel hd

theorem Tracks.complete
    (hitems : ∀ q, Delivers tmpl l id q →
      Counts q { l.questStatus id with Status := .COMPLETE } l.items) :
    Tracks tmpl (l.CompleteQuest tmpl id) := by
  have hset : Tracks tmpl (l.SetQuestStatus tmpl id .COMPLETE) := by
    unfold SetQuestStatus
    split
    · exact h.setData hitems
    · exact h
  unfold CompleteQuest
  split
  · exact h
  · dsimp only
    split
    · exact hset.beginReward id
    · exact hset

theorem Tracks.completeIfDone (hkept : Kept tmpl l) (ch : Character) (id : ℕ) :
    Tracks tmpl (l.completeIfDone tmpl ch id) := by
  unfold QuestLog.completeIfDone
  split
  · rename_i hcan
    refine h.complete fun q hdel => ?_
    have hcounts := h.counts hkept hdel
    obtain ⟨d, hd⟩ := hdel.active hkept
    unfold CanCompleteQuest at hcan
    rw [hdel.template] at hcan
    dsimp only at hcan
    split at hcan
    · cases hcan
    · split at hcan
      · rename_i hauto
        exact absurd ⟨d, hd⟩ (hkept.takes hdel.template ((Bool.and_eq_true _ _).mp hauto).2).1
      · rw [hd] at hcan
        rw [questStatus_of_find? hd] at hcounts ⊢
        unfold objectivesDone at hcan
        simp only [Bool.and_eq_true, beq_iff_eq, hdel.deliver, Bool.not_true, Bool.false_or,
          List.all_eq_true, Bool.or_eq_true, decide_eq_true_eq] at hcan
        obtain ⟨hinc, hdone⟩ := hcan
        have hcounter := hcounts.counter (.inl hinc)
        refine ⟨fun _ => hcounter, fun _ j => ?_⟩
        rcases hdone.1.1.1.1.1.1 j (List.mem_finRange j) with hzero | hle
        · rw [hzero]
          exact Nat.zero_le _
        · rw [hcounter j] at hle
          exact hle.trans (Nat.min_le_left _ _)
  · exact h

theorem Tracks.incomplete
    (hcounter : ∀ q, Delivers tmpl l id q → ∀ j,
      (l.questStatus id).ItemCount j = min (l.items (q.RequiredItemId j)) (q.RequiredItemCount j)) :
    Tracks tmpl (l.IncompleteQuest tmpl id) := by
  unfold IncompleteQuest SetQuestStatus
  split
  · exact h
  · split
    · exact h.setData fun q hdel => ⟨fun _ => hcounter q hdel, nofun⟩
    · exact h

end

theorem counts_of_failed (h : d.Status = .FAILED) (items : ℕ → ℕ) : Counts q d items := by
  refine ⟨fun heq => ?_, fun heq => ?_⟩
  · rw [h] at heq
    rcases heq with heq | heq <;> cases heq
  · rw [h] at heq
    cases heq

theorem Tracks.fail (h : Tracks tmpl l) (id : ℕ) : Tracks tmpl (l.FailQuest tmpl id) := by
  unfold FailQuest
  split
  · exact h
  · rename_i q hq
    have hset : l.SetQuestStatus tmpl id .FAILED =
        l.setQuestStatusData id { l.questStatus id with Status := .FAILED } := by
      unfold SetQuestStatus
      rw [hq, if_pos Option.isSome_some]
    dsimp only
    rw [hset, questStatus_setQuestStatusData_self]
    have htracks : Tracks tmpl (l.setQuestStatusData id
        { l.questStatus id with Status := .FAILED }) := h.setData fun q _ => counts_of_failed rfl _
    split
    · refine Tracks.of_fewer (l := (l.setQuestStatusData id
          { l.questStatus id with Status := .FAILED }).setQuestStatusData id
            { l.questStatus id with Status := .FAILED, Timer := 0 }) ?_ rfl
          fun _ _ hdel => ⟨⟨hdel.1, hdel.2, hdel.3, hdel.4⟩, rfl⟩
      exact htracks.setData fun q _ => counts_of_failed rfl _
    · exact htracks

/-! ## Items come -/

theorem addToCounter_self (q : Quest) (j : Fin QUEST_ITEM_OBJECTIVES_COUNT)
    (hcounter : d.ItemCount j = min owned (q.RequiredItemCount j))
    (hreq : q.RequiredItemCount j < 2 ^ 16) (hrange : owned + count < 2 ^ 16) :
    (addToCounter q j count d).ItemCount j = min (owned + count) (q.RequiredItemCount j) := by
  unfold addToCounter to16 to32
  dsimp only
  split
  · dsimp only
    rw [Function.update_self]
    split <;> omega
  · omega

theorem addToCounter_of_ne (q : Quest) {j j' : Fin QUEST_ITEM_OBJECTIVES_COUNT} (hne : j' ≠ j) :
    (addToCounter q j count d).ItemCount j' = d.ItemCount j' := by
  unfold addToCounter
  dsimp only
  split
  · dsimp only
    rw [Function.update_of_ne hne]
  · rfl

/-- A change is reported to this objective. -/
def IsTarget (tmpl : QuestTemplates) (l : QuestLog) (p : ℕ → Bool) (entry id : ℕ)
    (j : Fin QUEST_ITEM_OBJECTIVES_COUNT) : Prop :=
  (target tmpl l p entry).map (fun x => (x.1, x.2.2)) = some (id, j)

instance (p : ℕ → Bool) (entry id : ℕ) (j : Fin QUEST_ITEM_OBJECTIVES_COUNT) :
    Decidable (IsTarget tmpl l p entry id j) :=
  inferInstanceAs (Decidable ((target tmpl l p entry).map (fun x => (x.1, x.2.2)) = some (id, j)))

/-- **A gain that fits**: only the objective that is told lacks items. -/
def GainFits (tmpl : QuestTemplates) (l : QuestLog) (entry count : ℕ) : Prop :=
  count = 0 ∨ ∀ i, ∀ q ∈ tmpl.GetQuestTemplate (l.slots i), ∀ j, l.slots i ∉ l.rewarding →
    q.HasFlag QUEST_TRINITY_FLAGS_DELIVER = true → l.isIncomplete (l.slots i) = true →
    q.RequiredItemId j = entry →
      IsTarget tmpl l l.isIncomplete entry (l.slots i) j ∨ q.RequiredItemCount j ≤ l.items entry

/-- The items after a gain. -/
def gained (l : QuestLog) (entry count : ℕ) : QuestLog :=
  { l with items := Function.update l.items entry (l.items entry + count) }

theorem gained_items_self (l : QuestLog) (entry count : ℕ) :
    (l.gained entry count).items entry = l.items entry + count := Function.update_self _ _ _

theorem items_le_gained (entry count entry' : ℕ) :
    l.items entry' ≤ (l.gained entry count).items entry' := by
  unfold gained
  dsimp only
  rw [Function.update_apply]
  split
  · rename_i heq
    rw [heq]
    exact Nat.le_add_right _ _
  · exact le_refl _

theorem min_gained (h : entry' ≠ entry ∨ count = 0 ∨ r ≤ l.items entry) :
    min ((l.gained entry count).items entry') r = min (l.items entry') r := by
  unfold gained
  dsimp only
  rw [Function.update_apply]
  split
  · rename_i heq
    rw [heq]
    omega
  · rfl

theorem target_gained (p : ℕ → Bool) (count' : ℕ) :
    target tmpl (l.gained entry count) p count' = target tmpl l p count' := by
  unfold target
  induction List.finRange MAX_QUEST_LOG_SIZE with
  | nil => rfl
  | cons i slots ih =>
    unfold targetIn
    rw [ih]
    rfl

/-- The objectives of an incomplete quest that are not told have what they require. -/
theorem GainFits.counter (h : GainFits tmpl l entry count) (hdel : Delivers tmpl l id q)
    (hinc : l.isIncomplete id = true) (hnot : ¬IsTarget tmpl l l.isIncomplete entry id j) :
    q.RequiredItemId j ≠ entry ∨ count = 0 ∨ q.RequiredItemCount j ≤ l.items entry := by
  by_cases hentry : q.RequiredItemId j = entry
  · refine .inr (h.imp_right fun hall => ?_)
    obtain ⟨i, rfl⟩ := hdel.inLog
    exact (hall i q hdel.template j hdel.notRewarding hdel.deliver hinc hentry).resolve_left hnot
  · exact .inl hentry

theorem isIncomplete_of_find? (hd : l.m_QuestStatus.find? id = some d)
    (hstatus : d.Status = .INCOMPLETE) : l.isIncomplete id = true := by
  unfold isIncomplete
  rw [questStatus_of_find? hd, hstatus]
  rfl

theorem Counts.gained (h : Counts q d l.items) (entry count : ℕ)
    (hcounter : d.Status = .INCOMPLETE → ∀ j,
      q.RequiredItemId j ≠ entry ∨ count = 0 ∨ q.RequiredItemCount j ≤ l.items entry) :
    Counts q d (l.gained entry count).items := by
  refine ⟨fun hstatus j => ?_, fun hdone j =>
    (h.required hdone j).trans (items_le_gained entry count _)⟩
  rw [h.counter hstatus j]
  rcases hstatus with hinc | hdone
  · exact (min_gained (hcounter hinc j)).symm
  · have hmore := items_le_gained (l := l) entry count (q.RequiredItemId j)
    have hle := h.required hdone j
    omega

theorem Tracks.gain (h : Tracks tmpl l) (hkept : Kept tmpl l) (ch : Character)
    (hreq : ∀ id q, tmpl.GetQuestTemplate id = some q → ∀ j, q.RequiredItemCount j < 2 ^ 16)
    (hrange : l.items entry + count < 2 ^ 16) (hfits : GainFits tmpl l entry count) :
    Tracks tmpl (l.gain tmpl ch entry count) := by
  have hkept' : Kept tmpl (l.gained entry count) := hkept.setItems _
  have hdelivers {id : ℕ} {q : Quest} (hdel : Delivers tmpl (l.gained entry count) id q) :
      Delivers tmpl l id q := ⟨hdel.1, hdel.2, hdel.3, hdel.4⟩
  change Tracks tmpl ((l.gained entry count).ItemAddedQuestCheck tmpl ch entry count)
  rw [ItemAddedQuestCheck_eq hkept', target_gained]
  change Tracks tmpl ((target tmpl l l.isIncomplete entry).elim _ _)
  cases htarget : target tmpl l l.isIncomplete entry with
  | none =>
    intro id q d hdel hd
    have hdel := hdelivers hdel
    refine (h id q d hdel hd).gained entry count fun hinc j => .inl ?_
    exact item_ne_of_target_eq_none htarget hdel (isIncomplete_of_find? hd hinc) j
  | some x =>
    obtain ⟨id, q, j⟩ := x
    obtain ⟨hin, hne, hinc, hobj⟩ := targetIn_eq_some htarget
    obtain ⟨hq, hflag, hentry⟩ := objectiveFor_eq_some hobj
    have hactive : (l.gained entry count).Active id := hkept'.active_of_inLog hin hne
    have htold {id' : ℕ} {j' : Fin QUEST_ITEM_OBJECTIVES_COUNT} :
        IsTarget tmpl l l.isIncomplete entry id' j' ↔ id = id' ∧ j = j' := by
      unfold IsTarget
      rw [htarget, Option.map_some, Option.some.injEq, Prod.mk.injEq]
    change Tracks tmpl (((l.gained entry count).setQuestStatusData id
      (addToCounter q j count (l.questStatus id))).completeIfDone tmpl ch id)
    refine Tracks.completeIfDone ?_ ?_ ch id
    · intro id' q' d' hset hd'
      have hdel := hdelivers ⟨hset.1, hset.2, hset.3, hset.4⟩
      rw [setQuestStatusData, find?_set] at hd'
      by_cases heq : id' = id
      · subst heq
        rw [if_pos rfl] at hd'
        cases hdel.template.symm.trans hq
        have hcounts := h.counts hkept hdel
        have hstatus : (l.questStatus id').Status = .INCOMPLETE := beq_iff_eq.mp hinc
        rw [← Option.some.inj hd']
        refine ⟨fun _ j' => ?_, fun hdone => ?_⟩
        · by_cases hj : j' = j
          · subst hj
            rw [addToCounter_self _ _ (hcounts.counter (.inl hstatus) _) (hreq _ _ hq _)
              (by rw [hentry]; exact hrange)]
            change _ = min ((l.gained entry count).items _) _
            rw [hentry, gained_items_self]
          · rw [addToCounter_of_ne _ hj, hcounts.counter (.inl hstatus) j']
            refine (min_gained (hfits.counter hdel hinc fun hit => hj ?_)).symm
            exact (htold.mp hit).2.symm
        · rw [addToCounter_Status, hstatus] at hdone
          cases hdone
      · rw [if_neg heq] at hd'
        refine (h id' q' d' hdel hd').gained entry count fun hinc' j' => ?_
        exact hfits.counter hdel (isIncomplete_of_find? hd' hinc') fun hit =>
          heq (htold.mp hit).1.symm
    · refine hkept'.setSame hactive ?_ ?_
      · exact addToCounter_Status q j count _
      · rw [addToCounter_Timer]
        exact Iff.rfl

/-! ## Items go -/

/-- What `takeFromCounter` leaves. -/
def left (curitemcount reqitemcount count : ℕ) : ℕ :=
  let remitemcount :=
    to16 (if curitemcount ≤ reqitemcount then count else count + reqitemcount - curitemcount)
  if curitemcount ≤ remitemcount then 0 else curitemcount - remitemcount

/-- The count from which `takeFromCounter` takes. -/
def counted (l : QuestLog) (id : ℕ) (j : Fin QUEST_ITEM_OBJECTIVES_COUNT) (entry : ℕ) : ℕ :=
  if (l.questStatus id).Status ≠ .COMPLETE then (l.questStatus id).ItemCount j
  else to16 (l.items entry)

theorem takeFromCounter_eq (hactive : l.Active id) (hq : tmpl.GetQuestTemplate id = some q) :
    l.takeFromCounter tmpl id q j entry count =
      if l.counted id j entry < to32 (q.RequiredItemCount j + count) then
        l.setQuestStatusData id { l.questStatus id with
          Status := .INCOMPLETE
          ItemCount := Function.update (l.questStatus id).ItemCount j
            (left (l.counted id j entry) (q.RequiredItemCount j) count) }
      else l := by
  unfold takeFromCounter
  dsimp only
  rw [setQuestStatusData_self hactive]
  change ite (l.counted id j entry < _) _ _ = _
  split
  · unfold IncompleteQuest SetQuestStatus
    rw [if_neg (ne_zero_of_template hq), hq, if_pos Option.isSome_some,
      questStatus_setQuestStatusData_self]
    unfold setQuestStatusData
    rw [set_set]
    rfl
  · rfl

/-- **A loss that fits**: the objective that is told has no more than it requires, or goes on to
have all of it, and the others go on to have what they require. -/
def LossFits (tmpl : QuestTemplates) (l : QuestLog) (entry count : ℕ) : Prop :=
  ∀ i, ∀ q ∈ tmpl.GetQuestTemplate (l.slots i), ∀ j, l.slots i ∉ l.rewarding →
    q.HasFlag QUEST_TRINITY_FLAGS_DELIVER = true → q.RequiredItemId j = entry →
      if IsTarget tmpl l (fun _ => true) entry (l.slots i) j then
        (l.questStatus (l.slots i)).Status = .INCOMPLETE ∧
            (count = 0 ∨ l.items entry ≤ q.RequiredItemCount j ∨ l.items entry = count ∨
              q.RequiredItemCount j = 0) ∨
          (l.questStatus (l.slots i)).Status = .COMPLETE ∧
            (l.items entry ≤ q.RequiredItemCount j ∨ q.RequiredItemCount j + count ≤ l.items entry)
      else (l.questStatus (l.slots i)).Status = .INCOMPLETE ∨
          (l.questStatus (l.slots i)).Status = .COMPLETE →
        count = 0 ∨ q.RequiredItemCount j + count ≤ l.items entry

/-- The items after a loss. -/
def lost (l : QuestLog) (entry count : ℕ) : QuestLog :=
  { l with items := Function.update l.items entry (l.items entry - count) }

theorem lost_items_self (l : QuestLog) (entry count : ℕ) :
    (l.lost entry count).items entry = l.items entry - count := Function.update_self _ _ _

theorem lost_items_of_ne (h : entry' ≠ entry) :
    (l.lost entry count).items entry' = l.items entry' := Function.update_of_ne h _ _

/-- An objective that the loss does not touch, or that goes on to have what it requires. -/
theorem min_lost (h : entry' ≠ entry ∨ count = 0 ∨ r + count ≤ l.items entry) :
    min ((l.lost entry count).items entry') r = min (l.items entry') r := by
  by_cases heq : entry' = entry
  · subst heq
    rw [lost_items_self]
    omega
  · rw [lost_items_of_ne heq]

theorem left_of_incomplete (hreq : r < 2 ^ 16) (howned : owned < 2 ^ 16)
    (hle : count ≤ owned) (hfit : count = 0 ∨ owned ≤ r ∨ owned = count ∨ r = 0) :
    left (min owned r) r count = min (owned - count) r := by
  unfold left to16
  dsimp only
  split <;> split <;> omega

theorem left_of_complete (howned : owned < 2 ^ 16) (hle : count ≤ owned)
    (henough : owned = r) : left owned r count = min (owned - count) r := by
  unfold left to16
  dsimp only
  split <;> split <;> omega

theorem Counts.lost (h : Counts q d l.items)
    (hkeep : d.Status = .INCOMPLETE ∨ d.Status = .COMPLETE → ∀ j,
      q.RequiredItemId j ≠ entry ∨ count = 0 ∨ q.RequiredItemCount j + count ≤ l.items entry) :
    Counts q d (l.lost entry count).items := by
  refine ⟨fun hstatus j => ?_, fun hdone j => ?_⟩
  · rw [h.counter hstatus j]
    exact (min_lost (hkeep hstatus j)).symm
  · have hsame := min_lost (hkeep (.inr hdone) j)
    have hle := h.required hdone j
    omega

section

variable (h : LossFits tmpl l entry count) (hdel : Delivers tmpl l id q)
include h hdel

theorem LossFits.keep
    (hstatus : (l.questStatus id).Status = .INCOMPLETE ∨ (l.questStatus id).Status = .COMPLETE)
    (hnot : ¬IsTarget tmpl l (fun _ => true) entry id j) :
    q.RequiredItemId j ≠ entry ∨ count = 0 ∨ q.RequiredItemCount j + count ≤ l.items entry := by
  by_cases hentry : q.RequiredItemId j = entry
  · obtain ⟨i, rfl⟩ := hdel.inLog
    have hfit := h i q hdel.template j hdel.notRewarding hdel.deliver hentry
    rw [if_neg hnot] at hfit
    exact .inr (hfit hstatus)
  · exact .inl hentry

theorem LossFits.status (hentry : q.RequiredItemId j = entry)
    (htold : IsTarget tmpl l (fun _ => true) entry id j) :
    (l.questStatus id).Status = .INCOMPLETE ∨ (l.questStatus id).Status = .COMPLETE := by
  obtain ⟨i, hi⟩ := hdel.inLog
  subst hi
  have hfit := h i q hdel.template j hdel.notRewarding hdel.deliver hentry
  rw [if_pos htold] at hfit
  exact hfit.imp And.left And.left

theorem LossFits.left (hcounts : Counts q (l.questStatus id) l.items)
    (hentry : q.RequiredItemId j = entry) (htold : IsTarget tmpl l (fun _ => true) entry id j)
    (hreq : q.RequiredItemCount j < 2 ^ 16) (howned : l.items entry < 2 ^ 16)
    (hle : count ≤ l.items entry) :
    if l.counted id j entry < to32 (q.RequiredItemCount j + count) then
      QuestLog.left (l.counted id j entry) (q.RequiredItemCount j) count =
        min (l.items entry - count) (q.RequiredItemCount j)
    else count = 0 ∨ q.RequiredItemCount j + count ≤ l.items entry := by
  obtain ⟨i, hi⟩ := hdel.inLog
  subst hi
  have hfit := h i q hdel.template j hdel.notRewarding hdel.deliver hentry
  rw [if_pos htold] at hfit
  have hwide : to32 (q.RequiredItemCount j + count) = q.RequiredItemCount j + count :=
    Nat.mod_eq_of_lt (by omega)
  rw [hwide]
  rcases hfit with ⟨hinc, hfit⟩ | ⟨hdone, hfit⟩
  · have hcounted : l.counted (l.slots i) j entry =
        min (l.items entry) (q.RequiredItemCount j) := by
      unfold counted
      rw [if_pos (by rw [hinc]; decide), hcounts.counter (.inl hinc) j, hentry]
    rw [hcounted]
    split
    · exact left_of_incomplete hreq howned hle hfit
    · omega
  · have hcounted : l.counted (l.slots i) j entry = l.items entry := by
      unfold counted
      rw [if_neg (not_not_intro hdone)]
      exact Nat.mod_eq_of_lt howned
    have henough := hcounts.required hdone j
    rw [hentry] at henough
    rw [hcounted]
    split
    · exact left_of_complete howned hle (by omega)
    · omega

end

theorem Tracks.lose (h : Tracks tmpl l) (hkept : Kept tmpl l)
    (hreq : ∀ id q, tmpl.GetQuestTemplate id = some q → ∀ j, q.RequiredItemCount j < 2 ^ 16)
    (howned : l.items entry < 2 ^ 16) (hle : count ≤ l.items entry)
    (hfits : LossFits tmpl l entry count) : Tracks tmpl (l.lose tmpl entry count) := by
  change Tracks tmpl ((l.ItemRemovedQuestCheck tmpl entry count).lost entry count)
  rw [ItemRemovedQuestCheck_eq]
  have hdelivers {id : ℕ} {q : Quest} (hdel : Delivers tmpl (l.lost entry count) id q) :
      Delivers tmpl l id q := ⟨hdel.1, hdel.2, hdel.3, hdel.4⟩
  cases htarget : target tmpl l (fun _ => true) entry with
  | none =>
    intro id q d hdel hd
    have hdel := hdelivers hdel
    exact (h id q d hdel hd).lost fun _ j => .inl (item_ne_of_target_eq_none htarget hdel rfl j)
  | some x =>
    obtain ⟨id, q, j⟩ := x
    obtain ⟨hin, hne, -, hobj⟩ := targetIn_eq_some htarget
    obtain ⟨hq, hflag, hentry⟩ := objectiveFor_eq_some hobj
    have htold {id' : ℕ} {j' : Fin QUEST_ITEM_OBJECTIVES_COUNT} :
        IsTarget tmpl l (fun _ => true) entry id' j' ↔ id = id' ∧ j = j' := by
      unfold IsTarget
      rw [htarget, Option.map_some, Option.some.injEq, Prod.mk.injEq]
    have hother {id' : ℕ} {q' : Quest} {d' : QuestStatusData} (hdel : Delivers tmpl l id' q')
        (hd' : l.m_QuestStatus.find? id' = some d') (hne : id' ≠ id) :
        Counts q' d' (l.lost entry count).items := by
      refine (h id' q' d' hdel hd').lost fun hstatus j' => ?_
      rw [← questStatus_of_find? hd'] at hstatus
      exact hfits.keep hdel hstatus fun hit => hne (htold.mp hit).1.symm
    change Tracks tmpl ((l.takeFromCounter tmpl id q j entry count).lost entry count)
    rw [takeFromCounter_eq (hkept.active_of_inLog hin hne) hq]
    by_cases hlt : l.counted id j entry < to32 (q.RequiredItemCount j + count)
    · rw [if_pos hlt]
      intro id' q' d' hset hd'
      have hdel : Delivers tmpl l id' q' := ⟨hset.1, hset.2, hset.3, hset.4⟩
      change (l.m_QuestStatus.set id _).find? id' = some d' at hd'
      change Counts q' d' (l.lost entry count).items
      rw [find?_set] at hd'
      by_cases heq : id' = id
      · subst heq
        rw [if_pos rfl] at hd'
        cases hdel.template.symm.trans hq
        have hcounts := h.counts hkept hdel
        have hleft :=
          hfits.left hdel hcounts hentry (htold.mpr ⟨rfl, rfl⟩) (hreq _ _ hq j) howned hle
        rw [if_pos hlt] at hleft
        rw [← Option.some.inj hd']
        refine ⟨fun _ j' => ?_, nofun⟩
        have hstatus : (l.questStatus id').Status = .INCOMPLETE ∨
            (l.questStatus id').Status = .COMPLETE :=
          hfits.status hdel hentry (htold.mpr ⟨rfl, rfl⟩)
        dsimp only
        by_cases hj : j' = j
        · subst hj
          rw [Function.update_self, hleft, hentry, lost_items_self]
        · rw [Function.update_of_ne hj, hcounts.counter hstatus j']
          exact (min_lost (hfits.keep hdel hstatus fun hit => hj (htold.mp hit).2.symm)).symm
      · rw [if_neg heq] at hd'
        exact hother hdel hd' heq
    · rw [if_neg hlt]
      intro id' q' d' hset hd'
      have hdel := hdelivers hset
      by_cases heq : id' = id
      · subst heq
        obtain rfl := Option.some.inj (hdel.template.symm.trans hq)
        have hcounts := h.counts hkept hdel
        have hleft :=
          hfits.left hdel hcounts hentry (htold.mpr ⟨rfl, rfl⟩) (hreq _ _ hq j) howned hle
        rw [if_neg hlt] at hleft
        refine (h id' q' d' hdel hd').lost fun hstatus j' => ?_
        by_cases hj : j' = j
        · exact .inr (hj ▸ hleft)
        · rw [← questStatus_of_find? hd'] at hstatus
          exact hfits.keep hdel hstatus fun hit => hj (htold.mp hit).2.symm
      · exact hother hdel hd' heq

/-! ## Other steps -/

theorem counts_of_added (q : Quest) (giver : QuestGiver) (d : QuestStatusData)
    (hreq : ∀ j, q.RequiredItemCount j < 2 ^ 16)
    (hflag : q.HasFlag QUEST_TRINITY_FLAGS_DELIVER = true) :
    Counts q { l.AdjustQuestReqItemCount q (resetStatus q d) with Timer := l.timerOf q giver }
      l.items := by
  unfold AdjustQuestReqItemCount
  rw [if_pos hflag]
  refine ⟨fun _ j => ?_, nofun⟩
  dsimp only
  split
  · exact Nat.mod_eq_of_lt (by have := hreq j; omega)
  · rename_i hzero
    unfold resetStatus
    rw [if_pos hflag, not_not.mp hzero]
    exact (Nat.min_zero _).symm

theorem items_addQuest (q : Quest) (giver : QuestGiver) : (l.AddQuest q giver).items = l.items := by
  unfold AddQuest
  split
  · rfl
  · dsimp only
    split <;> rfl

theorem Tracks.addQuest (h : Tracks tmpl l)
    (hreq : ∀ id q, tmpl.GetQuestTemplate id = some q → ∀ j, q.RequiredItemCount j < 2 ^ 16)
    (hq : tmpl.GetQuestTemplate id = some q) (giver : QuestGiver)
    (hfree : l.CanAddQuest ch q = true) : Tracks tmpl (l.AddQuest q giver) := by
  obtain rfl := tmpl.questId id q hq
  have hadd := added_AddQuest (q := q) giver ((Bool.and_eq_true _ _).mp hfree).1
  intro id' q' d' hdel hd'
  rw [items_addQuest]
  rw [hadd.m_QuestStatus, find?_set] at hd'
  by_cases heq : id' = q.QuestId
  · rw [if_pos heq] at hd'
    rw [← Option.some.inj hd']
    cases hdel.template.symm.trans (heq ▸ hq)
    exact counts_of_added _ giver _ (hreq _ _ hq) hdel.deliver
  · rw [if_neg heq] at hd'
    have hin := (hadd.inLog_iff (ne_zero_of_template hdel.template)).mp hdel.inLog
    exact h id' q' d' ⟨hin.resolve_left heq, hadd.rewarding ▸ hdel.notRewarding, hdel.template,
      hdel.deliver⟩ hd'

theorem Tracks.left {l' : QuestLog} (h : Tracks tmpl l) (hleft : Left l l' id)
    (hitems : l'.items = l.items) : Tracks tmpl l' := by
  refine h.of_fewer hitems fun id' q hdel => ?_
  obtain ⟨hin, hne⟩ := (hleft.inLog_iff (ne_zero_of_template hdel.template)).mp hdel.inLog
  exact ⟨⟨hin, fun hmem => hdel.2 ((hleft.rewarding id' hne).mpr hmem), hdel.3, hdel.4⟩,
    hleft.find?_eq hne⟩

section

variable (h : Tracks tmpl l) (hkept : Kept tmpl l)
include h hkept

theorem Tracks.setSame (hstatus : d.Status = (l.questStatus id).Status)
    (hcount : d.ItemCount = (l.questStatus id).ItemCount) :
    Tracks tmpl (l.setQuestStatusData id d) := by
  refine h.setData fun q hdel => ?_
  have hcounts := h.counts hkept hdel
  refine ⟨fun hor j => ?_, fun hdone => ?_⟩
  · rw [hcount]
    exact hcounts.counter (hstatus ▸ hor) j
  · exact hcounts.required (hstatus ▸ hdone)

theorem Tracks.credit (ch : Character) (id : ℕ) (creatures : Fin QUEST_OBJECTIVES_COUNT → ℕ)
    (players : ℕ) (explored : Bool) :
    Tracks tmpl (l.credit tmpl ch id creatures players explored) := by
  unfold QuestLog.credit
  split
  · exact h
  · rename_i hne
    split
    · rename_i hin
      refine Tracks.completeIfDone (h.setSame hkept ?_ ?_) ?_ ch id
      · rfl
      · rfl
      · exact hkept.setSame (hkept.active_of_inLog hin hne) rfl Iff.rfl
    · exact h.completeIfDone hkept ch id

theorem Tracks.lack (id : ℕ) : Tracks tmpl (l.lack tmpl id) := by
  unfold QuestLog.lack
  split
  · rename_i hlack
    exact h.incomplete fun q hdel j => (h.counts hkept hdel).counter (.inr hlack.2.2.2) j
  · exact h

theorem Tracks.updateTimer (p_time : ℕ) (hid : l.Active id) :
    Tracks tmpl (l.updateTimer tmpl p_time id) := by
  unfold QuestLog.updateTimer
  dsimp only
  rw [setQuestStatusData_self hid]
  split
  · exact h.fail id
  · exact h.setSame hkept rfl rfl

theorem Tracks.updateTimers (p_time : ℕ) : Tracks tmpl (l.updateTimers tmpl p_time) := by
  exact (foldl_invariant (fun l' => (Tracks tmpl l' ∧ Kept tmpl l') ∧
      ∀ id ∈ l.m_timedquests.elems, l'.Active id)
    (fun l' id hid hl' => ⟨⟨hl'.1.1.updateTimer hl'.1.2 p_time (hl'.2 id hid),
        hl'.1.2.updateTimer p_time (hl'.2 id hid)⟩,
      fun id' hid' => active_updateTimer p_time id (hl'.2 id' hid')⟩)
    ⟨⟨h, hkept⟩, hkept.active_of_timed⟩).1.1

end

theorem Tracks.swap (h : Tracks tmpl l) (slot1 slot2 : ℕ) :
    Tracks tmpl (l.HandleQuestLogSwapQuest slot1 slot2) := by
  unfold HandleQuestLogSwapQuest
  split
  · exact h.of_fewer rfl fun id q hdel =>
      ⟨⟨(inLog_SwapQuestSlot _ _).mp hdel.1, hdel.2, hdel.3, hdel.4⟩, rfl⟩
  · exact h

theorem Tracks.removeQuest (h : Tracks tmpl l) (hkept : Kept tmpl l) (slot : ℕ) :
    Tracks tmpl (l.HandleQuestLogRemoveQuest tmpl slot) := by
  rcases hkept.removeQuest_left slot with heq | ⟨id, hleft⟩
  · rw [heq]
    exact h
  · refine h.left hleft ?_
    unfold HandleQuestLogRemoveQuest
    split
    · dsimp only
      split <;> rfl
    · rfl

theorem Tracks.endReward (h : Tracks tmpl l) (hkept : Kept tmpl l) : Tracks tmpl l.endReward := by
  rcases hkept.endReward_left with heq | ⟨id, hleft⟩
  · rw [heq]
    exact h
  · refine h.left hleft ?_
    unfold QuestLog.endReward
    split <;> rfl

/-! ## Runs -/

/-- Counts are below `2 ^ 16`, and no more goes than there is. -/
def InRange (l : QuestLog) : Op → Prop
  | .gain _ entry count => l.items entry + count < 2 ^ 16
  | .lose entry count => l.items entry < 2 ^ 16 ∧ count ≤ l.items entry
  | _ => True

/-- **A step after which the counters are right.**  A script completes only a quest that has its
items. -/
def Fits (tmpl : QuestTemplates) (l : QuestLog) : Op → Prop
  | .gain _ entry count => GainFits tmpl l entry count
  | .lose entry count => LossFits tmpl l entry count
  | .complete id => ∀ q, Delivers tmpl l id q →
      ((l.questStatus id).Status = .INCOMPLETE ∨ (l.questStatus id).Status = .COMPLETE) ∧
        ∀ j, q.RequiredItemCount j ≤ l.items (q.RequiredItemId j)
  | _ => True

theorem Tracks.step (h : Tracks tmpl l) (hkept : Kept tmpl l)
    (hreq : ∀ id q, tmpl.GetQuestTemplate id = some q → ∀ j, q.RequiredItemCount j < 2 ^ 16)
    {op : Op} (horderly : Orderly tmpl l op) (hrange : InRange l op) (hfits : Fits tmpl l op) :
    Tracks tmpl (l.step tmpl op) := by
  unfold QuestLog.step
  split
  · exact h
  · rename_i hnow
    have hrew (hpacket : op.duringReward = false) : l.rewarding = [] :=
      by_contra fun hne => hnow ⟨hne, hpacket⟩
    cases op with
    | accept ch id giver =>
      change Tracks tmpl (l.acceptQuest tmpl ch id giver)
      unfold acceptQuest
      cases hq : tmpl.GetQuestTemplate id with
      | none => exact h
      | some q =>
        dsimp only
        split
        · rename_i hcan
          obtain ⟨htake, hadd⟩ := (Bool.and_eq_true _ _).mp hcan
          exact (h.addQuest hreq hq giver hadd).completeIfDone
            (hkept.take (hrew rfl) hq htake hadd (horderly q hq htake hadd)) ch id
        · exact h
    | confirmAccept ch id sameGroup =>
      change Tracks tmpl (l.HandleQuestConfirmAccept tmpl ch id sameGroup)
      unfold HandleQuestConfirmAccept
      cases hq : tmpl.GetQuestTemplate id with
      | none => exact h
      | some q =>
        dsimp only
        split
        · rename_i hcan
          exact h.addQuest hreq hq .other ((Bool.and_eq_true _ _).mp hcan).2
        · exact h
    | swap slot1 slot2 => exact h.swap slot1 slot2
    | remove slot => exact h.removeQuest hkept slot
    | update p_time => exact h.updateTimers hkept p_time
    | reward id => exact h.beginReward id
    | gain ch entry count => exact h.gain hkept ch hreq hrange hfits
    | lose entry count => exact h.lose hkept hreq hrange.1 hrange.2 hfits
    | credit ch id creatures players explored =>
      exact h.credit hkept ch id creatures players explored
    | lack id => exact h.lack hkept id
    | complete id =>
      refine h.complete fun q hdel => ?_
      obtain ⟨hstatus, hall⟩ := hfits q hdel
      exact ⟨fun _ => (h.counts hkept hdel).counter hstatus, fun _ => hall⟩
    | fail id => exact h.fail id
    | endReward => exact h.endReward hkept

/-- **The counters are right** of all quests of the log that require items, and a complete quest has
what it requires; a quest that is being rewarded is about to leave. -/
structure CountersRight (tmpl : QuestTemplates) (l : QuestLog) : Prop where
  incomplete : ∀ id q d, Delivers tmpl l id q → l.m_QuestStatus.find? id = some d →
    d.Status = .INCOMPLETE →
      ∀ j, d.ItemCount j = min (l.items (q.RequiredItemId j)) (q.RequiredItemCount j)
  complete : ∀ id q d, Delivers tmpl l id q → l.m_QuestStatus.find? id = some d →
    d.Status = .COMPLETE → ∀ j, q.RequiredItemCount j ≤ l.items (q.RequiredItemId j)

/-- **The counters are right** after every run whose changes of items fit. -/
theorem countersRight_run (tmpl : QuestTemplates)
    (hreq : ∀ id q, tmpl.GetQuestTemplate id = some q → ∀ j, q.RequiredItemCount j < 2 ^ 16)
    (items : ℕ → ℕ) {ops : List Op}
    (h : Admissible (QuestLog.step tmpl)
      (fun l op => Orderly tmpl l op ∧ InRange l op ∧ Fits tmpl l op) (fresh items) ops) :
    CountersRight tmpl (run (QuestLog.step tmpl) (fresh items) ops) := by
  have htracks : Tracks tmpl (fresh items) := fun id q d _ hd => by cases hd
  obtain ⟨-, hrun⟩ := run_invariant (fun l => Kept tmpl l ∧ Tracks tmpl l)
    (fun l op hl hop => ⟨hl.1.step hop.1, hl.2.step hl.1 hreq hop.1 hop.2.1 hop.2.2⟩)
    ⟨kept_fresh tmpl items, htracks⟩ h
  exact ⟨fun id q d hdel hd hinc => (hrun id q d hdel hd).counter (.inl hinc),
    fun id q d hdel hd => (hrun id q d hdel hd).required⟩

/-- A quest for which five items of a kind are to be delivered. -/
def collectingQuest (id item : ℕ) : Quest :=
  { plainQuest id QUEST_TRINITY_FLAGS_DELIVER with
    RequiredItemId := fun j => if j = 0 then item else 0
    RequiredItemCount := fun j => if j = 0 then 5 else 0 }

/-- Quests for which five items are to be delivered, each of its own kind or all of the same. -/
def collectingQuests (item : ℕ → ℕ) : QuestTemplates where
  GetQuestTemplate id := if id = 0 then none else some (collectingQuest id (item id))
  mExclusiveQuestGroups _ := []
  zero := rfl
  questId id q hq := by
    split at hq
    · cases hq
    · rw [← Option.some.inj hq]
      rfl
  grouped id q hq hgroup := by
    split at hq
    · cases hq
    · rw [← Option.some.inj hq] at hgroup
      exact absurd rfl hgroup

theorem required_collectingQuests (item : ℕ → ℕ) (id : ℕ) (q : Quest)
    (hq : (collectingQuests item).GetQuestTemplate id = some q)
    (j : Fin QUEST_ITEM_OBJECTIVES_COUNT) : q.RequiredItemCount j < 2 ^ 16 := by
  change ite _ _ _ = some q at hq
  split at hq
  · cases hq
  · rw [← Option.some.inj hq]
    change ite _ _ _ < _
    split <;> decide

/-- Items of two quests come, until one is complete; then some of them go. -/
theorem countersRight_run_two_quests :
    CountersRight (collectingQuests fun id => id)
      (run (QuestLog.step (collectingQuests fun id => id)) (fresh fun _ => 0)
        [.accept fitCharacter 1 .other, .accept fitCharacter 2 .other, .gain fitCharacter 2 3,
          .gain fitCharacter 2 2, .gain fitCharacter 1 9, .lose 2 4]) := by
  refine countersRight_run _ (required_collectingQuests _) _
    ⟨⟨fun q hq _ _ hflag => ?_, trivial, trivial⟩, ⟨fun q hq _ _ hflag => ?_, trivial, trivial⟩,
      ⟨trivial, ?_, ?_⟩, ⟨trivial, ?_, ?_⟩, ⟨trivial, ?_, ?_⟩, ⟨trivial, ?_, ?_⟩, trivial⟩
  · rw [← Option.some.inj hq] at hflag
    exact absurd hflag (by decide)
  · rw [← Option.some.inj hq] at hflag
    exact absurd hflag (by decide)
  · unfold InRange
    decide +kernel
  · unfold Fits GainFits
    decide +kernel
  · unfold InRange
    decide +kernel
  · unfold Fits GainFits
    decide +kernel
  · unfold InRange
    decide +kernel
  · unfold Fits GainFits
    decide +kernel
  · unfold InRange
    decide +kernel
  · unfold Fits LossFits
    decide +kernel

/-- The counters are right after all changes of items. -/
def AlwaysRight : Prop :=
  ∀ tmpl : QuestTemplates,
    (∀ id q, tmpl.GetQuestTemplate id = some q → ∀ j, q.RequiredItemCount j < 2 ^ 16) →
      ∀ items ops, Admissible (QuestLog.step tmpl) InRange (fresh items) ops →
        CountersRight tmpl (run (QuestLog.step tmpl) (fresh items) ops)

/-- **Of two quests that require the same item**, the second is not told of a gain. -/
theorem second_quest_not_told : ¬AlwaysRight := by
  intro hall
  have hright := hall (collectingQuests fun _ => 7) (required_collectingQuests _) (fun _ => 0)
    [.accept fitCharacter 1 .other, .accept fitCharacter 2 .other, .gain fitCharacter 7 3]
    ⟨trivial, trivial, by unfold InRange; decide +kernel, trivial⟩
  generalize hl : run (QuestLog.step (collectingQuests fun _ => 7)) (fresh fun _ => 0)
    [.accept fitCharacter 1 .other, .accept fitCharacter 2 .other, .gain fitCharacter 7 3] = l
      at hright
  have hin : l.InLog 2 := by
    rw [← hl]
    decide +kernel
  have hnot : 2 ∉ l.rewarding := by
    rw [← hl]
    decide +kernel
  have hstatus : (l.m_QuestStatus.find? 2).map (fun d => (d.Status, d.ItemCount 0)) =
      some (.INCOMPLETE, 0) := by
    rw [← hl]
    decide +kernel
  have howned : l.items 7 = 3 := by
    rw [← hl]
    decide +kernel
  obtain ⟨d, hd, hpair⟩ := Option.map_eq_some_iff.mp hstatus
  obtain ⟨hinc, hzero⟩ := Prod.mk.inj hpair
  have hcounter := hright.incomplete 2 _ d ⟨hin, hnot, rfl, by decide⟩ hd hinc 0
  rw [hzero] at hcounter
  change 0 = min (l.items 7) 5 at hcounter
  rw [howned] at hcounter
  exact absurd hcounter (by decide)

end TeraCore.Quests.QuestLog
