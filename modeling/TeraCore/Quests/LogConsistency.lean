import Mathlib.Logic.Equiv.Basic
import TeraCore.Quests.QuestLog

/-!
# One quest, one slot

The slots of the log, the statuses of quests and the set of timed quests are three stores.  What
joins them is kept by every step that takes a quest only where it may be taken: a quest that is
confirmed is not asked whether the player has it, whether another timed quest runs, or whether
another quest of its group is active.

## Main results

* `logConsistent_run`: the log is consistent after every run of orderly steps
-/

namespace TeraCore.Quests.QuestLog

open Commons OrderedMap OrderedSet

variable {tmpl : QuestTemplates} {l : QuestLog} {ch : Character} {id : ℕ}

/-- The quest has a status. -/
def Active (l : QuestLog) (id : ℕ) : Prop := ∃ d, l.m_QuestStatus.find? id = some d

/-- **A timed quest of the log whose time runs.** -/
structure Running (tmpl : QuestTemplates) (l : QuestLog) (id : ℕ) : Prop where
  inLog : l.InLog id
  timed : ∃ q, tmpl.GetQuestTemplate id = some q ∧ q.HasFlag QUEST_TRINITY_FLAGS_TIMED = true
  timer : (l.questStatus id).Timer ≠ 0

/-- Two quests that exclude each other. -/
def SameGroup (tmpl : QuestTemplates) (id id' : ℕ) : Prop :=
  ∃ q q', tmpl.GetQuestTemplate id = some q ∧ tmpl.GetQuestTemplate id' = some q' ∧
    0 < q.ExclusiveGroup ∧ q'.ExclusiveGroup = q.ExclusiveGroup

theorem SameGroup.symm {id' : ℕ} (h : SameGroup tmpl id id') : SameGroup tmpl id' id := by
  obtain ⟨q, q', hq, hq', hpos, hsame⟩ := h
  exact ⟨q', q, hq', hq, hsame ▸ hpos, hsame.symm⟩

/-- No other quest of the group is active. -/
def NoneOfGroup (tmpl : QuestTemplates) (l : QuestLog) (id : ℕ) : Prop :=
  ∀ id', SameGroup tmpl id id' → id' ≠ id → ¬l.Active id'

/-- **What joins the slots, the statuses and the timed quests.** -/
structure Kept (tmpl : QuestTemplates) (l : QuestLog) : Prop where
  once : ∀ i j, l.slots i ≠ 0 → l.slots i = l.slots j → i = j
  active : ∀ i, l.slots i ≠ 0 → l.Active (l.slots i)
  known : ∀ id, l.Active id → (tmpl.GetQuestTemplate id).isSome = true
  live : ∀ id d, l.m_QuestStatus.find? id = some d → d.Status ≠ .NONE
  inLog : ∀ id d, l.m_QuestStatus.find? id = some d → d.Status = .INCOMPLETE → l.InLog id
  timed : ∀ id, id ∈ l.m_timedquests ↔ Running tmpl l id ∧ id ∉ l.rewarding
  oneTimed : ∀ id id', Running tmpl l id → Running tmpl l id' → id = id'
  group : ∀ id id', SameGroup tmpl id id' → l.Active id → l.Active id' → id = id'

/-! ## Looking up -/

theorem questStatus_of_find? {d : QuestStatusData} (h : l.m_QuestStatus.find? id = some d) :
    l.questStatus id = d := get_of_find? h

theorem slots_of_FindQuestSlot {slot : Fin MAX_QUEST_LOG_SIZE}
    (h : l.FindQuestSlot id = some slot) :
    l.slots slot = id := by
  simpa using List.find?_some h

theorem not_inLog_of_FindQuestSlot (h : l.FindQuestSlot id = none) : ¬l.InLog id := by
  rintro ⟨i, hi⟩
  have hnot := List.find?_eq_none.mp h i (List.mem_finRange i)
  simp [hi] at hnot

variable {q : Quest}

theorem ne_zero_of_template (h : tmpl.GetQuestTemplate id = some q) : id ≠ 0 := by
  rintro rfl
  rw [tmpl.zero] at h
  cases h

theorem Kept.ne_zero (h : Kept tmpl l) (hid : l.Active id) : id ≠ 0 := by
  obtain ⟨q, hq⟩ := Option.isSome_iff_exists.mp (h.known id hid)
  exact ne_zero_of_template hq

theorem Kept.active_of_inLog (h : Kept tmpl l) (hid : l.InLog id) (hne : id ≠ 0) : l.Active id := by
  obtain ⟨i, rfl⟩ := hid
  exact h.active i hne

theorem Kept.noneOfGroup_of_active (h : Kept tmpl l) (hid : l.Active id) : NoneOfGroup tmpl l id :=
  fun id' hsame hne hid' => hne (h.group id id' hsame hid hid').symm

theorem Kept.status_none (h : Kept tmpl l) (hid : l.GetQuestStatus tmpl id = .NONE) :
    ¬l.Active id := by
  rintro ⟨d, hd⟩
  unfold GetQuestStatus at hid
  rw [hd] at hid
  exact h.live id d hd hid

theorem Kept.noneOfGroup (h : Kept tmpl l) (hq : tmpl.GetQuestTemplate id = some q)
    (hgroup : l.SatisfyQuestExclusiveGroup tmpl ch q = true) : NoneOfGroup tmpl l id := by
  intro id' hsame hne
  obtain ⟨q₁, q', hq₁, hq', hpos, heq⟩ := hsame
  obtain rfl : q₁ = q := Option.some.inj (hq₁.symm.trans hq)
  unfold SatisfyQuestExclusiveGroup at hgroup
  rw [if_neg (by omega)] at hgroup
  have hmem := tmpl.grouped id' q' hq' (by omega)
  rw [heq] at hmem
  have htest := List.all_eq_true.mp hgroup id' hmem
  rw [tmpl.questId id q₁ hq] at htest
  simp only [Bool.or_eq_true, Bool.and_eq_true, beq_iff_eq] at htest
  exact h.status_none (htest.resolve_left hne).1.2

theorem Kept.takes (h : Kept tmpl l) (hq : tmpl.GetQuestTemplate id = some q)
    (htake : l.CanTakeQuest tmpl ch q = true) :
    ¬l.Active id ∧ NoneOfGroup tmpl l id ∧
      (q.HasFlag QUEST_TRINITY_FLAGS_TIMED = true → l.m_timedquests.elems = []) := by
  unfold CanTakeQuest at htake
  simp only [Bool.and_eq_true] at htake
  obtain ⟨⟨⟨-, hstatus⟩, hgroup⟩, htimed⟩ := htake
  refine ⟨?_, h.noneOfGroup hq hgroup, fun hflag => ?_⟩
  · unfold SatisfyQuestStatus at hstatus
    rw [tmpl.questId id q hq] at hstatus
    exact h.status_none (beq_iff_eq.mp hstatus)
  · unfold SatisfyQuestTimed at htimed
    rw [hflag, Bool.not_true, Bool.or_false] at htimed
    exact List.isEmpty_iff.mp htimed

/-! ## A status -/

section SetData

variable {d : QuestStatusData} {id' : ℕ}

theorem active_setQuestStatusData :
    (l.setQuestStatusData id d).Active id' ↔ id' = id ∨ l.Active id' := by
  unfold Active setQuestStatusData
  rw [find?_set]
  by_cases hid : id' = id
  · rw [if_pos hid]
    exact iff_of_true ⟨d, rfl⟩ (.inl hid)
  · rw [if_neg hid]
    exact ⟨.inr, fun h => h.resolve_left hid⟩

theorem questStatus_setQuestStatusData_self : (l.setQuestStatusData id d).questStatus id = d := by
  exact get_set_self _ _ _

theorem questStatus_setQuestStatusData_of_ne (h : id' ≠ id) :
    (l.setQuestStatusData id d).questStatus id' = l.questStatus id' := by
  exact get_set_of_ne _ _ h

theorem running_setQuestStatusData_of_ne (hne : id' ≠ id) :
    Running tmpl (l.setQuestStatusData id d) id' ↔ Running tmpl l id' := by
  have htimer := questStatus_setQuestStatusData_of_ne (l := l) (d := d) hne
  exact ⟨fun h => ⟨h.1, h.2, htimer ▸ h.3⟩, fun h => ⟨h.1, h.2, htimer.symm ▸ h.3⟩⟩

theorem running_setQuestStatusData
    (htimer : l.InLog id → (d.Timer = 0 ↔ (l.questStatus id).Timer = 0)) :
    Running tmpl (l.setQuestStatusData id d) id' ↔ Running tmpl l id' := by
  by_cases hid : id' = id
  · subst hid
    have hself : (l.setQuestStatusData id' d).questStatus id' = d :=
      questStatus_setQuestStatusData_self
    refine ⟨fun h => ⟨h.1, h.2, fun hzero => h.3 ?_⟩, fun h => ⟨h.1, h.2, fun hzero => h.3 ?_⟩⟩
    · rw [hself]
      exact (htimer h.inLog).mpr hzero
    · rw [hself] at hzero
      exact (htimer h.inLog).mp hzero
  · exact running_setQuestStatusData_of_ne hid

section

variable (h : Kept tmpl l) (hknown : (tmpl.GetQuestTemplate id).isSome = true)
  (hgroup : l.Active id ∨ NoneOfGroup tmpl l id) (hlive : d.Status ≠ .NONE)
  (hin : d.Status = .INCOMPLETE → l.InLog id)
include h hknown hgroup hlive hin

theorem Kept.setTimed {m_timedquests : OrderedSet ℕ}
    (htimed : ∀ id', id' ∈ m_timedquests ↔
      Running tmpl (l.setQuestStatusData id d) id' ∧ id' ∉ l.rewarding)
    (hone : ∀ id₁ id₂, Running tmpl (l.setQuestStatusData id d) id₁ →
      Running tmpl (l.setQuestStatusData id d) id₂ → id₁ = id₂) :
    Kept tmpl { l.setQuestStatusData id d with m_timedquests := m_timedquests } := by
  have hnone : NoneOfGroup tmpl l id := hgroup.elim h.noneOfGroup_of_active fun hnone => hnone
  have hrun (id' : ℕ) : Running tmpl { l.setQuestStatusData id d with
      m_timedquests := m_timedquests } id' ↔ Running tmpl (l.setQuestStatusData id d) id' :=
    ⟨fun h => ⟨h.1, h.2, h.3⟩, fun h => ⟨h.1, h.2, h.3⟩⟩
  have hactive (id' : ℕ) : Active { l.setQuestStatusData id d with
      m_timedquests := m_timedquests } id' ↔ id' = id ∨ l.Active id' := active_setQuestStatusData
  refine ⟨h.once, fun i hi => ?_, fun id' hid' => ?_, fun id' d' hd' => ?_, fun id' d' hd' => ?_,
    fun id' => ?_, fun id₁ id₂ h₁ h₂ => ?_, fun id₁ id₂ hsame h₁ h₂ => ?_⟩
  · exact (hactive _).mpr (.inr (h.active i hi))
  · rcases (hactive _).mp hid' with rfl | hid'
    · exact hknown
    · exact h.known id' hid'
  · change (l.m_QuestStatus.set id d).find? id' = some d' at hd'
    rw [find?_set] at hd'
    by_cases hid : id' = id
    · rw [if_pos hid] at hd'
      rw [← Option.some.inj hd']
      exact hlive
    · rw [if_neg hid] at hd'
      exact h.live id' d' hd'
  · change (l.m_QuestStatus.set id d).find? id' = some d' at hd'
    rw [find?_set] at hd'
    by_cases hid : id' = id
    · rw [if_pos hid] at hd'
      rw [← Option.some.inj hd', hid]
      exact hin
    · rw [if_neg hid] at hd'
      exact h.inLog id' d' hd'
  · exact (htimed id').trans (and_congr_left fun _ => (hrun id').symm)
  · exact hone id₁ id₂ ((hrun id₁).mp h₁) ((hrun id₂).mp h₂)
  · rcases (hactive _).mp h₁ with heq₁ | hact₁ <;> rcases (hactive _).mp h₂ with heq₂ | hact₂
    · exact heq₁.trans heq₂.symm
    · by_contra hne
      subst heq₁
      exact hnone id₂ hsame (Ne.symm hne) hact₂
    · by_contra hne
      subst heq₂
      exact hnone id₁ hsame.symm hne hact₁
    · exact h.group id₁ id₂ hsame hact₁ hact₂

theorem Kept.setData (htimer : l.InLog id → (d.Timer = 0 ↔ (l.questStatus id).Timer = 0)) :
    Kept tmpl (l.setQuestStatusData id d) := by
  change Kept tmpl { l.setQuestStatusData id d with m_timedquests := l.m_timedquests }
  refine h.setTimed hknown hgroup hlive hin (fun id' => ?_) fun id₁ id₂ h₁ h₂ => ?_
  · rw [running_setQuestStatusData htimer]
    exact h.timed id'
  · rw [running_setQuestStatusData htimer] at h₁ h₂
    exact h.oneTimed id₁ id₂ h₁ h₂

end

theorem Kept.setSame (h : Kept tmpl l) (hid : l.Active id)
    (hstatus : d.Status = (l.questStatus id).Status)
    (htimer : d.Timer = 0 ↔ (l.questStatus id).Timer = 0) :
    Kept tmpl (l.setQuestStatusData id d) := by
  obtain ⟨d', hd'⟩ := hid
  have hsame := questStatus_of_find? hd'
  refine h.setData (h.known id ⟨d', hd'⟩) (.inl ⟨d', hd'⟩) ?_ (fun hin => ?_) fun _ => htimer
  · rw [hstatus, hsame]
    exact h.live id d' hd'
  · rw [hstatus, hsame] at hin
    exact h.inLog id d' hd' hin

theorem Kept.setQuestStatus (h : Kept tmpl l) {status : QuestStatus}
    (hgroup : l.Active id ∨ NoneOfGroup tmpl l id) (hlive : status ≠ .NONE)
    (hin : status = .INCOMPLETE → l.InLog id) : Kept tmpl (l.SetQuestStatus tmpl id status) := by
  unfold SetQuestStatus
  split
  · rename_i hknown
    exact h.setData hknown hgroup hlive hin fun _ => Iff.rfl
  · exact h

end SetData

/-! ## Quests leave the log -/

/-- A log that a quest has left: it has no slot and no status, and does not run. -/
structure Left (l l' : QuestLog) (id : ℕ) : Prop where
  slots : ∀ i, l'.slots i = if l.slots i = id then 0 else l.slots i
  m_QuestStatus : l'.m_QuestStatus = l.m_QuestStatus.erase id
  timed : ∀ id', id' ∈ l'.m_timedquests ↔ id' ∈ l.m_timedquests ∧ id' ≠ id
  rewarding : ∀ id', id' ≠ id → (id' ∈ l'.rewarding ↔ id' ∈ l.rewarding)

section Left

variable {l' : QuestLog}

theorem Left.slot_eq (h : Left l l' id) {i : Fin MAX_QUEST_LOG_SIZE} (hi : l'.slots i ≠ 0) :
    l'.slots i = l.slots i ∧ l.slots i ≠ id := by
  rw [h.slots i] at hi ⊢
  by_cases hid : l.slots i = id
  · rw [if_pos hid] at hi
    exact absurd rfl hi
  · rw [if_neg hid]
    exact ⟨rfl, hid⟩

variable {id' : ℕ}

theorem Left.inLog_iff (h : Left l l' id) (hne : id' ≠ 0) :
    l'.InLog id' ↔ l.InLog id' ∧ id' ≠ id := by
  constructor
  · rintro ⟨i, rfl⟩
    obtain ⟨heq, hid⟩ := h.slot_eq hne
    rw [heq]
    exact ⟨⟨i, rfl⟩, hid⟩
  · rintro ⟨⟨i, rfl⟩, hid⟩
    exact ⟨i, (h.slots i).trans (if_neg hid)⟩

theorem Left.find?_eq (h : Left l l' id) (hne : id' ≠ id) :
    l'.m_QuestStatus.find? id' = l.m_QuestStatus.find? id' := by
  rw [h.m_QuestStatus, find?_erase_of_ne _ hne]

theorem Left.find?_self (h : Left l l' id) : l'.m_QuestStatus.find? id = none := by
  rw [h.m_QuestStatus, find?_erase_self]

theorem Left.ne_of_find? (h : Left l l' id) {d : QuestStatusData}
    (hd : l'.m_QuestStatus.find? id' = some d) : id' ≠ id := by
  rintro rfl
  rw [h.find?_self] at hd
  cases hd

theorem Left.active (h : Left l l' id) (hid : l'.Active id') : l.Active id' := by
  obtain ⟨d, hd⟩ := hid
  exact ⟨d, h.find?_eq (h.ne_of_find? hd) ▸ hd⟩

theorem Left.running_iff (h : Left l l' id) :
    Running tmpl l' id' ↔ Running tmpl l id' ∧ id' ≠ id := by
  have htimer (hne : id' ≠ id) : (l'.questStatus id').Timer = (l.questStatus id').Timer := by
    unfold questStatus OrderedMap.get
    rw [h.find?_eq hne]
  constructor
  · rintro ⟨hin, ⟨q, hq, hflag⟩, hrun⟩
    obtain ⟨hin, hne⟩ := (h.inLog_iff (ne_zero_of_template hq)).mp hin
    exact ⟨⟨hin, ⟨q, hq, hflag⟩, htimer hne ▸ hrun⟩, hne⟩
  · rintro ⟨⟨hin, ⟨q, hq, hflag⟩, hrun⟩, hne⟩
    exact ⟨(h.inLog_iff (ne_zero_of_template hq)).mpr ⟨hin, hne⟩, ⟨q, hq, hflag⟩,
      (htimer hne).symm ▸ hrun⟩

theorem Kept.left (h : Kept tmpl l) (hleft : Left l l' id) : Kept tmpl l' := by
  refine ⟨fun i j hi hij => ?_, fun i hi => ?_, fun id' hid' => h.known id' (hleft.active hid'),
    fun id' d hd => ?_, fun id' d hd hin => ?_, fun id' => ?_, fun id₁ id₂ h₁ h₂ => ?_,
    fun id₁ id₂ hsame h₁ h₂ => h.group id₁ id₂ hsame (hleft.active h₁) (hleft.active h₂)⟩
  · obtain ⟨heq, -⟩ := hleft.slot_eq hi
    obtain ⟨heq', -⟩ := hleft.slot_eq (hij ▸ hi)
    exact h.once i j (heq ▸ hi) (heq.symm.trans (hij.trans heq'))
  · obtain ⟨heq, hne⟩ := hleft.slot_eq hi
    rw [heq]
    obtain ⟨d, hd⟩ := h.active i (heq ▸ hi)
    exact ⟨d, (hleft.find?_eq hne).trans hd⟩
  · rw [hleft.find?_eq (hleft.ne_of_find? hd)] at hd
    exact h.live id' d hd
  · have hne := hleft.ne_of_find? hd
    rw [hleft.find?_eq hne] at hd
    exact (hleft.inLog_iff (h.ne_zero ⟨d, hd⟩)).mpr ⟨h.inLog id' d hd hin, hne⟩
  · rw [hleft.timed id', h.timed id', hleft.running_iff]
    constructor
    · rintro ⟨⟨hrun, hrew⟩, hne⟩
      exact ⟨⟨hrun, hne⟩, fun hmem => hrew ((hleft.rewarding id' hne).mp hmem)⟩
    · rintro ⟨⟨hrun, hne⟩, hrew⟩
      exact ⟨⟨hrun, fun hmem => hrew ((hleft.rewarding id' hne).mpr hmem)⟩, hne⟩
  · exact h.oneTimed id₁ id₂ (hleft.running_iff.mp h₁).1 (hleft.running_iff.mp h₂).1

end Left

theorem Kept.update_slot (h : Kept tmpl l) {slot : Fin MAX_QUEST_LOG_SIZE}
    (hslot : l.slots slot = id) (i : Fin MAX_QUEST_LOG_SIZE) :
    Function.update l.slots slot 0 i = if l.slots i = id then 0 else l.slots i := by
  by_cases hi : i = slot
  · subst hi
    rw [Function.update_self, if_pos hslot]
  · rw [Function.update_of_ne hi]
    by_cases hid : l.slots i = id
    · rw [if_pos hid]
      by_contra hne
      exact hi (h.once i slot hne (hid.trans hslot.symm))
    · rw [if_neg hid]

theorem Kept.removeQuest_left (h : Kept tmpl l) (slot : ℕ) :
    l.HandleQuestLogRemoveQuest tmpl slot = l ∨
      ∃ id, Left l (l.HandleQuestLogRemoveQuest tmpl slot) id := by
  unfold HandleQuestLogRemoveQuest
  split
  · rename_i hslot
    dsimp only
    split
    · exact .inl rfl
    · rename_i hne
      refine .inr ⟨l.slots ⟨slot, hslot⟩, h.update_slot rfl, rfl, fun id' => ?_,
        fun _ _ => Iff.rfl⟩
      change id' ∈ ite _ _ _ ↔ _
      split
      · exact mem_erase
      · rename_i hflag
        refine ⟨fun hmem => ⟨hmem, ?_⟩, fun hmem => hmem.1⟩
        rintro rfl
        obtain ⟨q, hq, htimed⟩ := ((h.timed _).mp hmem).1.timed
        rw [hq] at hflag
        exact hflag htimed
  · exact .inl rfl

theorem Kept.removeQuest (h : Kept tmpl l) (slot : ℕ) :
    Kept tmpl (l.HandleQuestLogRemoveQuest tmpl slot) := by
  rcases h.removeQuest_left slot with heq | ⟨id, hleft⟩
  · rw [heq]
    exact h
  · exact h.left hleft

theorem SwapQuestSlot_slots (slot1 slot2 i : Fin MAX_QUEST_LOG_SIZE) :
    (l.SwapQuestSlot slot1 slot2).slots i = l.slots (Equiv.swap slot1 slot2 i) := by
  unfold SwapQuestSlot
  rw [Equiv.swap_apply_def]
  dsimp only
  by_cases h₂ : i = slot2
  · subst h₂
    rw [Function.update_self]
    by_cases h₁ : i = slot1
    · rw [if_pos h₁, h₁]
    · rw [if_neg h₁, if_pos rfl]
  · rw [Function.update_of_ne h₂, if_neg h₂]
    by_cases h₁ : i = slot1
    · subst h₁
      rw [Function.update_self, if_pos rfl]
    · rw [Function.update_of_ne h₁, if_neg h₁]

theorem inLog_SwapQuestSlot (slot1 slot2 : Fin MAX_QUEST_LOG_SIZE) :
    (l.SwapQuestSlot slot1 slot2).InLog id ↔ l.InLog id := by
  unfold InLog
  simp only [SwapQuestSlot_slots]
  exact ((Equiv.swap slot1 slot2).surjective.exists (p := fun i => l.slots i = id)).symm

theorem running_SwapQuestSlot (slot1 slot2 : Fin MAX_QUEST_LOG_SIZE) :
    Running tmpl (l.SwapQuestSlot slot1 slot2) id ↔ Running tmpl l id :=
  ⟨fun h => ⟨(inLog_SwapQuestSlot slot1 slot2).mp h.1, h.2, h.3⟩,
    fun h => ⟨(inLog_SwapQuestSlot slot1 slot2).mpr h.1, h.2, h.3⟩⟩

section

variable (h : Kept tmpl l)
include h

theorem Kept.swap (slot1 slot2 : ℕ) : Kept tmpl (l.HandleQuestLogSwapQuest slot1 slot2) := by
  unfold HandleQuestLogSwapQuest
  split
  · refine ⟨fun i j hi hij => ?_, fun i hi => ?_, h.known, h.live,
      fun id d hd hin => (inLog_SwapQuestSlot _ _).mpr (h.inLog id d hd hin),
      fun id => (h.timed id).trans (and_congr_left fun _ => (running_SwapQuestSlot _ _).symm),
      fun id₁ id₂ h₁ h₂ => ?_, h.group⟩
    · rw [SwapQuestSlot_slots] at hi hij
      rw [SwapQuestSlot_slots] at hij
      exact (Equiv.swap _ _).injective (h.once _ _ hi hij)
    · rw [SwapQuestSlot_slots] at hi ⊢
      exact h.active _ hi
    · rw [running_SwapQuestSlot] at h₁ h₂
      exact h.oneTimed id₁ id₂ h₁ h₂
  · exact h

/-! ## Rewards -/

theorem Kept.beginReward (id : ℕ) : Kept tmpl (l.beginReward id) := by
  refine ⟨h.once, h.active, h.known, h.live, h.inLog, fun id' => ?_,
    fun id₁ id₂ h₁ h₂ => h.oneTimed id₁ id₂ ⟨h₁.1, h₁.2, h₁.3⟩ ⟨h₂.1, h₂.2, h₂.3⟩, h.group⟩
  have hrun : Running tmpl (l.beginReward id) id' ↔ Running tmpl l id' :=
    ⟨fun hr => ⟨hr.1, hr.2, hr.3⟩, fun hr => ⟨hr.1, hr.2, hr.3⟩⟩
  rw [hrun]
  change id' ∈ l.m_timedquests.erase id ↔ _ ∧ id' ∉ id :: l.rewarding
  rw [mem_erase, List.mem_cons, h.timed id', not_or]
  tauto

theorem Kept.endReward_left : l.endReward = l ∨ ∃ id, Left l l.endReward id := by
  unfold QuestLog.endReward
  split
  · exact .inl rfl
  · rename_i id rewarding hrew
    have hnot : id ∉ l.m_timedquests := fun hmem =>
      ((h.timed id).mp hmem).2 (hrew ▸ List.mem_cons_self)
    refine .inr ⟨id, fun i => ?_, rfl, fun id' => ?_, fun id' hne => ?_⟩
    · dsimp only
      cases hfind : l.FindQuestSlot id with
      | none => exact (if_neg fun hid => not_inLog_of_FindQuestSlot hfind ⟨i, hid⟩).symm
      | some slot => exact h.update_slot (slots_of_FindQuestSlot hfind) i
    · exact ⟨fun hmem => ⟨hmem, fun heq => hnot (heq ▸ hmem)⟩, fun hmem => hmem.1⟩
    · rw [hrew, List.mem_cons]
      exact ⟨.inr, fun hmem => hmem.resolve_left hne⟩

theorem Kept.endReward : Kept tmpl l.endReward := by
  rcases h.endReward_left with heq | ⟨id, hleft⟩
  · rw [heq]
    exact h
  · exact h.left hleft

/-! ## Changes of a quest -/

theorem Kept.complete
    (hgroup : (tmpl.GetQuestTemplate id).isSome = true → l.Active id ∨ NoneOfGroup tmpl l id) :
    Kept tmpl (l.CompleteQuest tmpl id) := by
  have hset : Kept tmpl (l.SetQuestStatus tmpl id .COMPLETE) := by
    unfold SetQuestStatus
    split
    · rename_i hknown
      exact h.setData hknown (hgroup hknown) nofun nofun
        fun _ => Iff.rfl
    · exact h
  unfold CompleteQuest
  split
  · exact h
  · dsimp only
    split
    · exact hset.beginReward id
    · exact hset

theorem Kept.completeIfDone (ch : Character) (id : ℕ) :
    Kept tmpl (l.completeIfDone tmpl ch id) := by
  unfold QuestLog.completeIfDone
  split
  · rename_i hcan
    refine h.complete fun _ => ?_
    unfold CanCompleteQuest at hcan
    cases hq : tmpl.GetQuestTemplate id with
    | none =>
      rw [hq] at hcan
      cases hcan
    | some q =>
      rw [hq] at hcan
      dsimp only at hcan
      split at hcan
      · cases hcan
      · split at hcan
        · rename_i hauto
          exact .inr (h.takes hq ((Bool.and_eq_true _ _).mp hauto).2).2.1
        · split at hcan
          · cases hcan
          · rename_i d hd
            exact .inl ⟨d, hd⟩
  · exact h

theorem Kept.incomplete (hin : l.InLog id) (hne : id ≠ 0) :
    Kept tmpl (l.IncompleteQuest tmpl id) := by
  unfold IncompleteQuest
  rw [if_neg hne]
  exact h.setQuestStatus (.inl (h.active_of_inLog hin hne)) nofun fun _ => hin

theorem Kept.stop (hid : l.Active id) :
    Kept tmpl { l.setQuestStatusData id { l.questStatus id with Timer := 0 } with
      m_timedquests := l.m_timedquests.erase id } := by
  have hrun (id' : ℕ) : Running tmpl
      (l.setQuestStatusData id { l.questStatus id with Timer := 0 }) id' ↔
        Running tmpl l id' ∧ id' ≠ id := by
    by_cases hne : id' = id
    · subst hne
      refine iff_of_false (fun hrun => hrun.timer ?_) fun hrun => hrun.2 rfl
      rw [questStatus_setQuestStatusData_self]
    · rw [running_setQuestStatusData_of_ne hne]
      exact (and_iff_left hne).symm
  obtain ⟨d, hd⟩ := hid
  have hstatus := questStatus_of_find? hd
  refine h.setTimed (h.known id ⟨d, hd⟩) (.inl ⟨d, hd⟩) ?_ (fun hin => ?_) (fun id' => ?_)
    fun id₁ id₂ h₁ h₂ => ?_
  · rw [hstatus]
    exact h.live id d hd
  · rw [hstatus] at hin
    exact h.inLog id d hd hin
  · rw [hrun, mem_erase, h.timed id']
    tauto
  · exact h.oneTimed id₁ id₂ ((hrun id₁).mp h₁).1 ((hrun id₂).mp h₂).1

theorem Kept.fail
    (hgroup : (tmpl.GetQuestTemplate id).isSome = true → l.Active id ∨ NoneOfGroup tmpl l id) :
    Kept tmpl (l.FailQuest tmpl id) := by
  unfold FailQuest
  cases hq : tmpl.GetQuestTemplate id with
  | none => exact h
  | some q =>
    rw [hq] at hgroup
    have hset : Kept tmpl (l.SetQuestStatus tmpl id .FAILED) :=
      h.setQuestStatus (hgroup rfl) nofun nofun
    dsimp only
    split
    · refine hset.stop ?_
      unfold SetQuestStatus
      rw [hq, if_pos Option.isSome_some]
      exact active_setQuestStatusData.mpr (.inl rfl)
    · exact hset

end

/-! ## Quests come into the log -/

/-- A log that a quest has come into, with a status and a time. -/
structure Added (l l' : QuestLog) (q : Quest) (d : QuestStatusData) : Prop where
  slots : ∃ slot, l.slots slot = 0 ∧ l'.slots = Function.update l.slots slot q.QuestId
  m_QuestStatus : l'.m_QuestStatus = l.m_QuestStatus.set q.QuestId d
  incomplete : d.Status = .INCOMPLETE
  timed : ∀ id, id ∈ l'.m_timedquests ↔
    id ∈ l.m_timedquests ∨ id = q.QuestId ∧ q.HasFlag QUEST_TRINITY_FLAGS_TIMED = true
  rewarding : l'.rewarding = l.rewarding

/-- The time that a quest gets when it is added. -/
def timerOf (l : QuestLog) (q : Quest) (giver : QuestGiver) : ℕ :=
  if q.HasFlag QUEST_TRINITY_FLAGS_TIMED then l.timeLimit q giver else 0

theorem added_AddQuest (giver : QuestGiver) (hfree : (l.FindQuestSlot 0).isSome = true) :
    Added l (l.AddQuest q giver) q
      { l.AdjustQuestReqItemCount q (resetStatus q (l.questStatus q.QuestId)) with
        Timer := l.timerOf q giver } := by
  obtain ⟨slot, hslot⟩ := Option.isSome_iff_exists.mp hfree
  have hzero := slots_of_FindQuestSlot hslot
  have hstatus : (l.AdjustQuestReqItemCount q
      (resetStatus q (l.questStatus q.QuestId))).Status = .INCOMPLETE := by
    unfold AdjustQuestReqItemCount
    split <;> rfl
  unfold AddQuest timerOf
  rw [hslot]
  dsimp only
  split
  · rename_i hflag
    refine ⟨⟨slot, hzero, rfl⟩, rfl, hstatus, fun id => ?_, rfl⟩
    change id ∈ l.m_timedquests.insert q.QuestId ↔ _
    rw [mem_insert]
    tauto
  · rename_i hflag
    exact ⟨⟨slot, hzero, rfl⟩, rfl, hstatus,
      fun id => (or_iff_left fun h => hflag h.2).symm, rfl⟩

section Added

variable {l' : QuestLog} {d : QuestStatusData}

theorem Added.inLog_iff (h : Added l l' q d) {id : ℕ} (hne : id ≠ 0) :
    l'.InLog id ↔ id = q.QuestId ∨ l.InLog id := by
  obtain ⟨slot, hzero, hslots⟩ := h.slots
  unfold InLog
  rw [hslots]
  constructor
  · rintro ⟨i, hi⟩
    by_cases hslot : i = slot
    · subst hslot
      rw [Function.update_self] at hi
      exact .inl hi.symm
    · rw [Function.update_of_ne hslot] at hi
      exact .inr ⟨i, hi⟩
  · rintro (rfl | ⟨i, hi⟩)
    · exact ⟨slot, Function.update_self _ _ _⟩
    · refine ⟨i, ?_⟩
      rw [Function.update_of_ne]
      · exact hi
      · rintro rfl
        exact hne (hi.symm.trans hzero)

theorem Added.active_iff (h : Added l l' q d) {id : ℕ} :
    l'.Active id ↔ id = q.QuestId ∨ l.Active id := by
  unfold Active
  rw [h.m_QuestStatus]
  exact active_setQuestStatusData (l := l)

theorem Added.running_of_ne (h : Added l l' q d) {id : ℕ} (hne : id ≠ q.QuestId) :
    Running tmpl l' id ↔ Running tmpl l id := by
  have htimer : l'.questStatus id = l.questStatus id := by
    unfold questStatus
    rw [h.m_QuestStatus]
    exact get_set_of_ne _ _ hne
  constructor
  · rintro ⟨hin, ⟨q', hq', hflag⟩, hrun⟩
    refine ⟨?_, ⟨q', hq', hflag⟩, htimer ▸ hrun⟩
    exact ((h.inLog_iff (ne_zero_of_template hq')).mp hin).resolve_left hne
  · rintro ⟨hin, ⟨q', hq', hflag⟩, hrun⟩
    exact ⟨(h.inLog_iff (ne_zero_of_template hq')).mpr (.inr hin), ⟨q', hq', hflag⟩,
      htimer.symm ▸ hrun⟩

theorem Added.running_self (h : Added l l' q d)
    (hq : tmpl.GetQuestTemplate q.QuestId = some q) :
    Running tmpl l' q.QuestId ↔ q.HasFlag QUEST_TRINITY_FLAGS_TIMED = true ∧ d.Timer ≠ 0 := by
  have htimer : l'.questStatus q.QuestId = d := by
    unfold questStatus
    rw [h.m_QuestStatus]
    exact get_set_self _ _ _
  constructor
  · rintro ⟨-, ⟨q', hq', hflag⟩, hrun⟩
    rw [hq] at hq'
    rw [Option.some.inj hq']
    exact ⟨hflag, htimer ▸ hrun⟩
  · rintro ⟨hflag, hrun⟩
    exact ⟨(h.inLog_iff (ne_zero_of_template hq)).mpr (.inl rfl), ⟨q, hq, hflag⟩,
      htimer.symm ▸ hrun⟩

theorem Kept.added (h : Kept tmpl l) (hadd : Added l l' q d)
    (hq : tmpl.GetQuestTemplate q.QuestId = some q) (hrew : l.rewarding = [])
    (hnot : ¬l.InLog q.QuestId) (hgroup : NoneOfGroup tmpl l q.QuestId)
    (htimed : q.HasFlag QUEST_TRINITY_FLAGS_TIMED = true →
      l.m_timedquests.elems = [] ∧ d.Timer ≠ 0) : Kept tmpl l' := by
  have hpos := ne_zero_of_template hq
  have hold (id : ℕ) (hid : id ≠ q.QuestId) (hrun : Running tmpl l' id) :
      id ∈ l.m_timedquests := by
    refine (h.timed id).mpr ⟨(hadd.running_of_ne hid).mp hrun, ?_⟩
    rw [hrew]
    exact List.not_mem_nil
  refine ⟨fun i j hi hij => ?_, fun i hi => ?_, fun id hid => ?_, fun id d' hd' => ?_,
    fun id d' hd' hin => ?_, fun id => ?_, fun id₁ id₂ h₁ h₂ => ?_, fun id₁ id₂ hsame h₁ h₂ => ?_⟩
  · obtain ⟨slot, hzero, hslots⟩ := hadd.slots
    rw [hslots] at hi hij
    by_cases h₁ : i = slot <;> by_cases h₂ : j = slot
    · exact h₁.trans h₂.symm
    · subst h₁
      rw [Function.update_self, Function.update_of_ne h₂] at hij
      exact absurd ⟨j, hij.symm⟩ hnot
    · subst h₂
      rw [Function.update_self, Function.update_of_ne h₁] at hij
      exact absurd ⟨i, hij⟩ hnot
    · rw [Function.update_of_ne h₁] at hi hij
      rw [Function.update_of_ne h₂] at hij
      exact h.once i j hi hij
  · rcases (hadd.inLog_iff hi).mp ⟨i, rfl⟩ with heq | hin
    · exact hadd.active_iff.mpr (.inl heq)
    · exact hadd.active_iff.mpr (.inr (h.active_of_inLog hin hi))
  · rcases hadd.active_iff.mp hid with rfl | hid
    · rw [hq]
      rfl
    · exact h.known id hid
  · rw [hadd.m_QuestStatus, find?_set] at hd'
    by_cases hid : id = q.QuestId
    · rw [if_pos hid] at hd'
      rw [← Option.some.inj hd', hadd.incomplete]
      exact nofun
    · rw [if_neg hid] at hd'
      exact h.live id d' hd'
  · by_cases hid : id = q.QuestId
    · exact (hadd.inLog_iff (hid ▸ hpos)).mpr (.inl hid)
    · rw [hadd.m_QuestStatus, find?_set_of_ne _ _ hid] at hd'
      exact (hadd.inLog_iff (h.ne_zero ⟨d', hd'⟩)).mpr (.inr (h.inLog id d' hd' hin))
  · rw [hadd.timed id, hadd.rewarding, hrew]
    by_cases hid : id = q.QuestId
    · subst hid
      rw [hadd.running_self hq]
      have hnotTimed : q.QuestId ∉ l.m_timedquests := fun hmem =>
        hnot ((h.timed _).mp hmem).1.inLog
      constructor
      · intro hmem
        have hflag := (hmem.resolve_left hnotTimed).2
        exact ⟨⟨hflag, (htimed hflag).2⟩, List.not_mem_nil⟩
      · exact fun hrun => .inr ⟨rfl, hrun.1.1⟩
    · rw [hadd.running_of_ne hid, ← hrew, ← h.timed id]
      exact or_iff_left fun hmem => hid hmem.1
  · by_cases hid₁ : id₁ = q.QuestId <;> by_cases hid₂ : id₂ = q.QuestId
    · exact hid₁.trans hid₂.symm
    · subst hid₁
      have hmem := hold id₂ hid₂ h₂
      have hnil := (htimed ((hadd.running_self hq).mp h₁).1).1
      change id₂ ∈ l.m_timedquests.elems at hmem
      rw [hnil] at hmem
      cases hmem
    · subst hid₂
      have hmem := hold id₁ hid₁ h₁
      have hnil := (htimed ((hadd.running_self hq).mp h₂).1).1
      change id₁ ∈ l.m_timedquests.elems at hmem
      rw [hnil] at hmem
      cases hmem
    · exact h.oneTimed id₁ id₂ ((hadd.running_of_ne hid₁).mp h₁) ((hadd.running_of_ne hid₂).mp h₂)
  · rcases hadd.active_iff.mp h₁ with heq₁ | hact₁ <;>
      rcases hadd.active_iff.mp h₂ with heq₂ | hact₂
    · exact heq₁.trans heq₂.symm
    · by_contra hne
      subst heq₁
      exact hgroup id₂ hsame (Ne.symm hne) hact₂
    · by_contra hne
      subst heq₂
      exact hgroup id₁ hsame.symm hne hact₁
    · exact h.group id₁ id₂ hsame hact₁ hact₂

end Added

/-! ## Items and time -/

theorem setQuestStatusData_self (h : l.Active id) :
    l.setQuestStatusData id (l.questStatus id) = l := by
  obtain ⟨d, hd⟩ := h
  have hmap : l.m_QuestStatus.set id (l.questStatus id) = l.m_QuestStatus := by
    rw [questStatus_of_find? hd]
    refine ext_find? fun id' => ?_
    rw [find?_set]
    by_cases hid : id' = id
    · rw [if_pos hid, hid, hd]
    · rw [if_neg hid]
  unfold setQuestStatusData
  rw [hmap]

theorem addToCounter_Status (q : Quest) (j : Fin QUEST_ITEM_OBJECTIVES_COUNT) (count : ℕ)
    (d : QuestStatusData) : (addToCounter q j count d).Status = d.Status := by
  unfold addToCounter
  dsimp only
  split <;> rfl

theorem addToCounter_Timer (q : Quest) (j : Fin QUEST_ITEM_OBJECTIVES_COUNT) (count : ℕ)
    (d : QuestStatusData) : (addToCounter q j count d).Timer = d.Timer := by
  unfold addToCounter
  dsimp only
  split <;> rfl

section

variable (h : Kept tmpl l)
include h

theorem Kept.itemAddedLoop (ch : Character) (entry count : ℕ)
    (slots : List (Fin MAX_QUEST_LOG_SIZE)) :
    Kept tmpl (itemAddedLoop tmpl ch entry count slots l) := by
  induction slots with
  | nil => exact h
  | cons i slots ih =>
    unfold QuestLog.itemAddedLoop
    dsimp only
    split
    · exact ih
    · rename_i hne
      have hactive := h.active i hne
      rw [setQuestStatusData_self hactive]
      split
      · exact ih
      · split
        · exact ih
        · rename_i q j _
          refine Kept.completeIfDone (h.setSame hactive ?_ ?_) ch _
          · exact addToCounter_Status q j count _
          · rw [addToCounter_Timer]

theorem Kept.takeFromCounter (hin : l.InLog id) (hne : id ≠ 0) (q : Quest)
    (j : Fin QUEST_ITEM_OBJECTIVES_COUNT) (entry count : ℕ) :
    Kept tmpl (l.takeFromCounter tmpl id q j entry count) := by
  have hactive := h.active_of_inLog hin hne
  unfold QuestLog.takeFromCounter
  dsimp only
  rw [setQuestStatusData_self hactive]
  generalize ite ((l.questStatus id).Status ≠ .COMPLETE) _ _ = curitemcount
  split
  · refine Kept.incomplete (h.setSame hactive ?_ ?_) hin hne
    · rfl
    · exact Iff.rfl
  · exact h

theorem Kept.itemRemovedLoop (entry count : ℕ) (slots : List (Fin MAX_QUEST_LOG_SIZE)) :
    Kept tmpl (l.itemRemovedLoop tmpl entry count slots) := by
  induction slots with
  | nil => exact h
  | cons i slots ih =>
    unfold QuestLog.itemRemovedLoop
    split
    · exact ih
    · rename_i hne
      split
      · exact ih
      · exact h.takeFromCounter ⟨i, rfl⟩ hne _ _ _ _

theorem Kept.setItems (items : ℕ → ℕ) : Kept tmpl { l with items := items } := by
  have hrun (id : ℕ) : Running tmpl { l with items := items } id ↔ Running tmpl l id :=
    ⟨fun h => ⟨h.1, h.2, h.3⟩, fun h => ⟨h.1, h.2, h.3⟩⟩
  exact ⟨h.once, h.active, h.known, h.live, h.inLog,
    fun id => (h.timed id).trans (and_congr_left fun _ => (hrun id).symm),
    fun id₁ id₂ h₁ h₂ => h.oneTimed id₁ id₂ ((hrun id₁).mp h₁) ((hrun id₂).mp h₂), h.group⟩

theorem Kept.gain (ch : Character) (entry count : ℕ) : Kept tmpl (l.gain tmpl ch entry count) :=
  (h.setItems _).itemAddedLoop ch entry count _

theorem Kept.lose (entry count : ℕ) : Kept tmpl (l.lose tmpl entry count) :=
  (h.itemRemovedLoop entry count _).setItems _

theorem Kept.credit (ch : Character) (id : ℕ) (creatures : Fin QUEST_OBJECTIVES_COUNT → ℕ)
    (players : ℕ) (explored : Bool) :
    Kept tmpl (l.credit tmpl ch id creatures players explored) := by
  unfold QuestLog.credit
  split
  · exact h
  · rename_i hne
    refine Kept.completeIfDone ?_ ch id
    split
    · rename_i hin
      exact h.setSame (h.active_of_inLog hin hne) rfl Iff.rfl
    · exact h

theorem Kept.lack (id : ℕ) : Kept tmpl (l.lack tmpl id) := by
  unfold QuestLog.lack
  split
  · rename_i hlack
    exact h.incomplete hlack.2.1 hlack.1
  · exact h

theorem Kept.updateTimer (p_time : ℕ) (hid : l.Active id) :
    Kept tmpl (l.updateTimer tmpl p_time id) := by
  unfold QuestLog.updateTimer
  dsimp only
  rw [setQuestStatusData_self hid]
  split
  · exact h.fail fun _ => .inl hid
  · rename_i hlt
    refine h.setSame hid rfl ?_
    dsimp only
    omega

end

theorem active_updateTimer (p_time id' : ℕ) (hid : l.Active id) :
    (l.updateTimer tmpl p_time id').Active id := by
  unfold QuestLog.updateTimer FailQuest SetQuestStatus
  dsimp only
  have hset {l : QuestLog} (d : QuestStatusData) (h : l.Active id) :
      (l.setQuestStatusData id' d).Active id := active_setQuestStatusData.mpr (.inr h)
  split
  · split
    · exact hset _ hid
    · split
      · split
        · exact hset _ (hset _ (hset _ hid))
        · exact hset _ (hset _ hid)
      · split
        · exact hset _ (hset _ hid)
        · exact hset _ hid
  · exact hset _ (hset _ hid)

theorem Kept.active_of_timed (h : Kept tmpl l) (id : ℕ) (hid : id ∈ l.m_timedquests.elems) :
    l.Active id := by
  obtain ⟨hin, ⟨q, hq, -⟩, -⟩ := ((h.timed id).mp hid).1
  exact h.active_of_inLog hin (ne_zero_of_template hq)

theorem Kept.updateTimers (h : Kept tmpl l) (p_time : ℕ) :
    Kept tmpl (l.updateTimers tmpl p_time) := by
  exact (foldl_invariant (fun l' => Kept tmpl l' ∧ ∀ id ∈ l.m_timedquests.elems, l'.Active id)
    (fun l' id hid hl' => ⟨hl'.1.updateTimer p_time (hl'.2 id hid),
      fun id' hid' => active_updateTimer p_time id (hl'.2 id' hid')⟩) ⟨h, h.active_of_timed⟩).1

/-! ## Runs -/

/-- **A step that takes, completes or fails a quest where it may.**  A timed quest that is shared
has time left, a quest that is confirmed is one that could be taken, and what scripts complete or
fail is active or has no rival. -/
def Orderly (tmpl : QuestTemplates) (l : QuestLog) : Op → Prop
  | .accept ch id giver => ∀ q, tmpl.GetQuestTemplate id = some q →
      l.CanTakeQuest tmpl ch q = true → l.CanAddQuest ch q = true →
      q.HasFlag QUEST_TRINITY_FLAGS_TIMED = true → l.timeLimit q giver ≠ 0
  | .confirmAccept ch id sameGroup => ∀ q, tmpl.GetQuestTemplate id = some q →
      (q.HasFlag QUEST_FLAGS_PARTY_ACCEPT && sameGroup && l.CanAddQuest ch q) = true →
      ¬l.InLog id ∧ NoneOfGroup tmpl l id ∧ (q.HasFlag QUEST_TRINITY_FLAGS_TIMED = true →
        l.m_timedquests.elems = [] ∧ l.timeLimit q .other ≠ 0)
  | .complete id | .fail id => (tmpl.GetQuestTemplate id).isSome = true →
      l.Active id ∨ NoneOfGroup tmpl l id
  | _ => True

theorem Kept.addQuest (h : Kept tmpl l) (giver : QuestGiver)
    (hq : tmpl.GetQuestTemplate id = some q) (hfree : l.CanAddQuest ch q = true)
    (hrew : l.rewarding = []) (hnot : ¬l.InLog id) (hgroup : NoneOfGroup tmpl l id)
    (htimed : q.HasFlag QUEST_TRINITY_FLAGS_TIMED = true →
      l.m_timedquests.elems = [] ∧ l.timeLimit q giver ≠ 0) : Kept tmpl (l.AddQuest q giver) := by
  obtain rfl := tmpl.questId id q hq
  refine h.added (added_AddQuest giver ((Bool.and_eq_true _ _).mp hfree).1) hq hrew hnot hgroup
    fun hflag => ⟨(htimed hflag).1, ?_⟩
  change l.timerOf q giver ≠ 0
  unfold timerOf
  rw [if_pos hflag]
  exact (htimed hflag).2

theorem Kept.take (h : Kept tmpl l) (hrew : l.rewarding = []) {giver : QuestGiver} {q : Quest}
    (hq : tmpl.GetQuestTemplate id = some q) (htake : l.CanTakeQuest tmpl ch q = true)
    (hadd : l.CanAddQuest ch q = true)
    (htimer : q.HasFlag QUEST_TRINITY_FLAGS_TIMED = true → l.timeLimit q giver ≠ 0) :
    Kept tmpl (l.AddQuest q giver) := by
  obtain ⟨hnot, hgroup, htimed⟩ := h.takes hq htake
  exact h.addQuest giver hq hadd hrew
    (fun hin => hnot (h.active_of_inLog hin (ne_zero_of_template hq))) hgroup
    fun hflag => ⟨htimed hflag, htimer hflag⟩

theorem Kept.accept (h : Kept tmpl l) (hrew : l.rewarding = []) {giver : QuestGiver}
    (hop : Orderly tmpl l (.accept ch id giver)) : Kept tmpl (l.acceptQuest tmpl ch id giver) := by
  unfold acceptQuest
  cases hq : tmpl.GetQuestTemplate id with
  | none => exact h
  | some q =>
    dsimp only
    split
    · rename_i hcan
      obtain ⟨htake, hadd⟩ := (Bool.and_eq_true _ _).mp hcan
      exact (h.take hrew hq htake hadd (hop q hq htake hadd)).completeIfDone ch id
    · exact h

theorem Kept.confirmAccept (h : Kept tmpl l) (hrew : l.rewarding = []) {sameGroup : Bool}
    (hop : Orderly tmpl l (.confirmAccept ch id sameGroup)) :
    Kept tmpl (l.HandleQuestConfirmAccept tmpl ch id sameGroup) := by
  unfold HandleQuestConfirmAccept
  cases hq : tmpl.GetQuestTemplate id with
  | none => exact h
  | some q =>
    dsimp only
    split
    · rename_i hcan
      obtain ⟨hnot, hgroup, htimed⟩ := hop q hq hcan
      exact h.addQuest .other hq ((Bool.and_eq_true _ _).mp hcan).2 hrew hnot hgroup htimed
    · exact h

theorem Kept.step (h : Kept tmpl l) {op : Op} (hop : Orderly tmpl l op) :
    Kept tmpl (l.step tmpl op) := by
  unfold QuestLog.step
  split
  · exact h
  · rename_i hnow
    have hrew (hpacket : op.duringReward = false) : l.rewarding = [] :=
      by_contra fun hne => hnow ⟨hne, hpacket⟩
    cases op with
    | accept ch id giver => exact h.accept (hrew rfl) hop
    | confirmAccept ch id sameGroup => exact h.confirmAccept (hrew rfl) hop
    | swap slot1 slot2 => exact h.swap slot1 slot2
    | remove slot => exact h.removeQuest slot
    | update p_time => exact h.updateTimers p_time
    | reward id => exact h.beginReward id
    | gain ch entry count => exact h.gain ch entry count
    | lose entry count => exact h.lose entry count
    | credit ch id creatures players explored => exact h.credit ch id creatures players explored
    | lack id => exact h.lack id
    | complete id => exact h.complete hop
    | fail id => exact h.fail hop
    | endReward => exact h.endReward

theorem kept_fresh (tmpl : QuestTemplates) (items : ℕ → ℕ) : Kept tmpl (fresh items) := by
  have hnone (id : ℕ) : ¬(fresh items).Active id := fun ⟨d, hd⟩ => by cases hd
  have hnot (id : ℕ) : ¬Running tmpl (fresh items) id := by
    rintro ⟨⟨i, rfl⟩, ⟨q, hq, -⟩, -⟩
    exact ne_zero_of_template hq rfl
  exact ⟨fun i j hi => absurd rfl hi, fun i hi => absurd rfl hi,
    fun id hid => absurd hid (hnone id),
    fun id d hd => absurd ⟨d, hd⟩ (hnone id), fun id d hd => absurd ⟨d, hd⟩ (hnone id),
    fun id => iff_of_false List.not_mem_nil fun hrun => hnot id hrun.1,
    fun id _ hrun => absurd hrun (hnot id), fun id _ _ hid => absurd hid (hnone id)⟩

/-- **The slots, the statuses and the timed quests agree**; a quest that is being rewarded runs no
more. -/
structure LogConsistent (tmpl : QuestTemplates) (l : QuestLog) : Prop where
  once : ∀ i j, l.slots i ≠ 0 → l.slots i = l.slots j → i = j
  status : ∀ i, l.slots i ≠ 0 → ∃ d, l.m_QuestStatus.find? (l.slots i) = some d
  incomplete : ∀ id d, l.m_QuestStatus.find? id = some d → d.Status = .INCOMPLETE → l.InLog id
  oneTimed : ∀ id id', Running tmpl l id → Running tmpl l id' → id = id'
  timed : l.rewarding = [] → ∀ id, id ∈ l.m_timedquests ↔ Running tmpl l id
  group : ∀ id id', SameGroup tmpl id id' → l.Active id → l.Active id' → id = id'

theorem Kept.consistent (h : Kept tmpl l) : LogConsistent tmpl l where
  once := h.once
  status := h.active
  incomplete := h.inLog
  oneTimed := h.oneTimed
  timed hrew id := by
    rw [h.timed id, hrew]
    exact and_iff_left List.not_mem_nil
  group := h.group

/-- **The log is consistent** after every run of orderly steps. -/
theorem logConsistent_run (tmpl : QuestTemplates) (items : ℕ → ℕ) {ops : List Op}
    (h : Admissible (QuestLog.step tmpl) (Orderly tmpl) (fresh items) ops) :
    LogConsistent tmpl (run (QuestLog.step tmpl) (fresh items) ops) :=
  (run_invariant (Kept tmpl) (fun _ _ hkept hop => hkept.step hop) (kept_fresh tmpl items)
    h).consistent

/-- A quest that has flags and a time of a minute, and nothing else. -/
def plainQuest (id : ℕ) (flags : BitVec 32) : Quest where
  QuestId := id
  Flags := flags
  LimitTime := 60
  ExclusiveGroup := 0
  IsAutoComplete := false
  RequiredItemId _ := 0
  RequiredItemCount _ := 0
  RequiredNpcOrGo _ := 0
  RequiredNpcOrGoCount _ := 0
  PlayersSlain := 0
  RewOrReqMoney := 0
  RepObjectiveFaction := 0
  RepObjectiveValue := 0

def plainQuests (flags : BitVec 32) : QuestTemplates where
  GetQuestTemplate id := if id = 0 then none else some (plainQuest id flags)
  mExclusiveQuestGroups _ := []
  zero := rfl
  questId id q hq := by
    split at hq
    · cases hq
    · rw [← Option.some.inj hq]
      rfl
  grouped id q hq hgroup := by
    split at hq
    · cases hq
    · rw [← Option.some.inj hq] at hgroup
      exact absurd rfl hgroup

/-- A character who may take every quest. -/
def fitCharacter : Character where
  money := 0
  reputation _ := 0
  qualifies _ := true
  doneLately _ := false
  storesSourceItem _ := true

/-- A timed quest is accepted and put into another slot, is completed and rewarded, and another one
is accepted then. -/
theorem logConsistent_run_two_quests :
    LogConsistent (plainQuests (QUEST_FLAGS_PARTY_ACCEPT ||| QUEST_TRINITY_FLAGS_TIMED))
      (run (QuestLog.step (plainQuests (QUEST_FLAGS_PARTY_ACCEPT ||| QUEST_TRINITY_FLAGS_TIMED)))
        (fresh fun _ => 0)
        [.accept fitCharacter 1 .other, .swap 0 7, .update 1000,
          .credit fitCharacter 1 (fun _ => 1) 0 false,
          .reward 1, .endReward, .accept fitCharacter 2 (.player 5000)]) := by
  refine logConsistent_run _ _ ⟨fun q hq _ _ _ => ?_, trivial, trivial, trivial, trivial, trivial,
    fun q hq _ _ _ => ?_, trivial⟩
  · rw [← Option.some.inj hq]
    decide
  · rw [← Option.some.inj hq]
    decide

/-- The log is consistent after all steps. -/
def AlwaysConsistent : Prop :=
  ∀ tmpl items ops, LogConsistent tmpl (run (QuestLog.step tmpl) (fresh items) ops)

/-- **A quest that is confirmed twice** has two slots. -/
theorem quest_in_two_slots : ¬AlwaysConsistent := by
  intro hall
  have hone : (run (QuestLog.step (plainQuests QUEST_FLAGS_PARTY_ACCEPT)) (fresh fun _ => 0)
      [.confirmAccept fitCharacter 1 true, .confirmAccept fitCharacter 1 true]).slots 0 = 1 := by
    decide +kernel
  have htwo : (run (QuestLog.step (plainQuests QUEST_FLAGS_PARTY_ACCEPT)) (fresh fun _ => 0)
      [.confirmAccept fitCharacter 1 true, .confirmAccept fitCharacter 1 true]).slots 1 = 1 := by
    decide +kernel
  have hsame := (hall _ _ _).once 0 1 (by rw [hone]; decide) (hone.trans htwo.symm)
  exact absurd hsame (by decide)

end TeraCore.Quests.QuestLog
