import TeraCore.Quests.LogConsistency

/-!
# Casts that count for quests

An objective of a quest may be that a spell is cast on a creature, or on one that its kill credits
name.  A cast counts once for every quest of the log, at its first objective that it serves.

The loop over the log has one variable for the creature.  When a kill credit serves an objective,
the variable is set to it, and stays so: the quests that come later in the log are served as if the
spell had been cast on the creature that the kill credit names.

A quest that is rewarded as soon as it is complete begins to be rewarded here; what its reward
changes are steps of their own, as everywhere in the log.

## Main definitions

* `CastedCreatureOrGO`
* `CreditRight`: what a cast should change
* `Undisturbed`: no quest is served otherwise than by the creature itself

## Main results

* `creditRight_iff`: when a cast counts as it should, in every order of the quests
-/

namespace TeraCore.Quests

open Commons

abbrev MAX_KILL_CREDIT : ℕ := 2

/-- **What a cast reads of the templates**: quests, the spells of their objectives, and creatures,
whose kill credits name creatures. -/
structure CreditTemplates where
  quests : QuestTemplates
  /-- `RequiredSpellCast` of the quest with this id -/
  RequiredSpellCast : ℕ → Fin QUEST_OBJECTIVES_COUNT → ℕ
  /-- `KillCredit` of the creature with this entry -/
  KillCredit : ℕ → Option (Fin MAX_KILL_CREDIT → ℕ)
  zero : KillCredit 0 = none
  named : ∀ entry credits, KillCredit entry = some credits →
    ∀ k, credits k ≠ 0 → (KillCredit (credits k)).isSome = true
  /-- The counts are loaded as 16-bit numbers. -/
  count_lt : ∀ id q, quests.GetQuestTemplate id = some q →
    ∀ j, q.RequiredNpcOrGoCount j < 2 ^ 16

/-- A quest, and its status in a log. -/
abbrev QuestWithStatus : Type := Quest × QuestStatusData

namespace CreditTemplates

variable (tmpl : CreditTemplates) (spell_id : ℕ)

/-- The loop over the kill credits of a creature, which looks for the target of an objective.  There
is no template to read if the entry is no creature. -/
def creditedEntry (entry reqTarget : ℕ) : ℕ :=
  match tmpl.KillCredit entry with
  | none => entry
  | some credits => (List.finRange MAX_KILL_CREDIT).foldl
      (fun entry k => if credits k = reqTarget then credits k else entry) entry

/-- The target of an objective, and the creature that is compared with it. -/
def reqTarget (isCreature : Bool) (q : Quest) (j : Fin QUEST_OBJECTIVES_COUNT)
    (entry : ℕ) : ℕ × ℕ :=
  if isCreature then
    if 0 < q.RequiredNpcOrGo j then
      let reqTarget := (q.RequiredNpcOrGo j).toNat
      (reqTarget, if reqTarget ≠ entry then tmpl.creditedEntry entry reqTarget else entry)
    else (0, entry)
  else if q.RequiredNpcOrGo j < 0 then ((-q.RequiredNpcOrGo j).toNat, entry)
  else (0, entry)

/-- The loop over the objectives of a quest: the one that is served, and the entry that is left. -/
def castObjective (isCreature : Bool) (q : Quest) :
    List (Fin QUEST_OBJECTIVES_COUNT) → ℕ → Option (Fin QUEST_OBJECTIVES_COUNT) × ℕ
  | [], entry => (none, entry)
  | j :: js, entry =>
    if tmpl.RequiredSpellCast q.QuestId j ≠ spell_id then castObjective isCreature q js entry
    else
      let (reqTarget, entry) := tmpl.reqTarget isCreature q j entry
      if reqTarget ≠ entry then castObjective isCreature q js entry else (some j, entry)

/-- A counter that is not full is raised. -/
def addCast (q : Quest) (j : Fin QUEST_OBJECTIVES_COUNT) (d : QuestStatusData) : QuestStatusData :=
  if d.CreatureOrGOCount j < q.RequiredNpcOrGoCount j then
    { d with CreatureOrGOCount :=
        Function.update d.CreatureOrGOCount j (to16 (d.CreatureOrGOCount j + 1)) }
  else d

/-- The turn of a slot, with the entry that is left by the turns before. -/
def castTurn (ch : Character) (isCreature : Bool) (s : QuestLog × ℕ) (i : Fin MAX_QUEST_LOG_SIZE) :
    QuestLog × ℕ :=
  let (l, entry) := s
  let questid := l.slots i
  if questid = 0 then s
  else match tmpl.quests.GetQuestTemplate questid with
    | none => s
    | some q =>
      let q_status := l.questStatus questid
      let l := l.setQuestStatusData questid q_status
      if q_status.Status = .INCOMPLETE ∧ q.HasFlag QUEST_TRINITY_FLAGS_KILL_OR_CAST = true then
        match tmpl.castObjective spell_id isCreature q (List.finRange QUEST_OBJECTIVES_COUNT)
          entry with
        | (none, entry) => (l, entry)
        | (some j, entry) =>
          ((l.setQuestStatusData questid (addCast q j q_status)).completeIfDone tmpl.quests ch
            questid, entry)
      else (l, entry)

def CastedCreatureOrGO (ch : Character) (isCreature : Bool) (entry : ℕ) (l : QuestLog) : QuestLog :=
  ((List.finRange MAX_QUEST_LOG_SIZE).foldl (tmpl.castTurn spell_id ch isCreature) (l, entry)).1

/-! ## What a cast should change -/

variable (entry : ℕ)

/-- A cast on the creature serves the objective. -/
def serves (q : Quest) (j : Fin QUEST_OBJECTIVES_COUNT) : Bool :=
  decide (tmpl.RequiredSpellCast q.QuestId j = spell_id) && decide (0 < q.RequiredNpcOrGo j) &&
    (decide ((q.RequiredNpcOrGo j).toNat = entry) || (tmpl.KillCredit entry).any fun credits =>
      (List.finRange MAX_KILL_CREDIT).any fun k => credits k = (q.RequiredNpcOrGo j).toNat)

/-- The first objective that is served. -/
def objectiveFor (q : Quest) : Option (Fin QUEST_OBJECTIVES_COUNT) :=
  (List.finRange QUEST_OBJECTIVES_COUNT).find? (tmpl.serves spell_id entry q)

/-- The first objective that is served, if its counter is not full. -/
def raisedObjective (quest : QuestWithStatus) : Option (Fin QUEST_OBJECTIVES_COUNT) :=
  (tmpl.objectiveFor spell_id entry quest.1).filter fun j =>
    quest.2.CreatureOrGOCount j < quest.1.RequiredNpcOrGoCount j

def raise (counts : Fin QUEST_OBJECTIVES_COUNT → ℕ) (j? : Option (Fin QUEST_OBJECTIVES_COUNT)) :
    Fin QUEST_OBJECTIVES_COUNT → ℕ :=
  match j? with
  | some j => Function.update counts j (counts j + 1)
  | none => counts

/-- The entry that is left by a quest. -/
def entryAfter (q : Quest) : ℕ :=
  match tmpl.objectiveFor spell_id entry q with
  | some j => (q.RequiredNpcOrGo j).toNat
  | none => entry

/-- **No quest is served otherwise**: by the entry that is left when its turn comes, the same
counter is raised, or none, as by the creature itself. -/
def Undisturbed (creature : ℕ) : List QuestWithStatus → ℕ → Prop
  | [], _ => True
  | quest :: quests, entry =>
    tmpl.raisedObjective spell_id entry quest = tmpl.raisedObjective spell_id creature quest ∧
      Undisturbed creature quests (tmpl.entryAfter spell_id entry quest.1)

/-- A quest that is incomplete, and asks for kills or casts. -/
def castQuest (l : QuestLog) (id : ℕ) : Option QuestWithStatus :=
  if id = 0 then none
  else match tmpl.quests.GetQuestTemplate id with
    | none => none
    | some q =>
      if (l.questStatus id).Status = .INCOMPLETE ∧
          q.HasFlag QUEST_TRINITY_FLAGS_KILL_OR_CAST = true then some (q, l.questStatus id)
      else none

/-- The quests of the log that a cast may count for, in the order of their slots. -/
def castQuests (l : QuestLog) : List QuestWithStatus :=
  (List.finRange MAX_QUEST_LOG_SIZE).filterMap fun i => tmpl.castQuest l (l.slots i)

def counters (d : QuestStatusData) :
    (Fin QUEST_OBJECTIVES_COUNT → ℕ) × (Fin QUEST_ITEM_OBJECTIVES_COUNT → ℕ) × ℕ :=
  (d.CreatureOrGOCount, d.ItemCount, d.PlayerCount)

/-- The counters of a quest after a cast on the creature. -/
def credited (quest : QuestWithStatus) :
    (Fin QUEST_OBJECTIVES_COUNT → ℕ) × (Fin QUEST_ITEM_OBJECTIVES_COUNT → ℕ) × ℕ :=
  (raise quest.2.CreatureOrGOCount (tmpl.raisedObjective spell_id entry quest),
    quest.2.ItemCount, quest.2.PlayerCount)

/-- **The cast has counted as it should**: for every quest of the log that it may count for, and for
no other one. -/
def CreditRight (l l' : QuestLog) : Prop :=
  ∀ id, counters (l'.questStatus id) =
    match if l.InLog id then tmpl.castQuest l id else none with
    | some quest => tmpl.credited spell_id entry quest
    | none => counters (l.questStatus id)

/-! ## Which objective is served -/

variable {tmpl spell_id} {q : Quest} {entry} {l l' : QuestLog} {ch : Character} {id : ℕ}
  {quest : QuestWithStatus} {i : Fin MAX_QUEST_LOG_SIZE}

theorem foldl_credits (credits : Fin MAX_KILL_CREDIT → ℕ) (reqTarget : ℕ)
    (ks : List (Fin MAX_KILL_CREDIT)) (entry : ℕ) :
    ks.foldl (fun entry k => if credits k = reqTarget then credits k else entry) entry =
      if ks.any (fun k => credits k = reqTarget) then reqTarget else entry := by
  induction ks generalizing entry with
  | nil => rfl
  | cons k ks ih =>
    rw [List.foldl_cons, ih, List.any_cons]
    by_cases hk : credits k = reqTarget
    · simp [hk]
    · simp [hk]

theorem creditedEntry_eq (entry reqTarget : ℕ) : tmpl.creditedEntry entry reqTarget =
    if (tmpl.KillCredit entry).any (fun credits => (List.finRange MAX_KILL_CREDIT).any
      fun k => credits k = reqTarget) then reqTarget else entry := by
  rw [creditedEntry]
  cases tmpl.KillCredit entry with
  | none => rfl
  | some credits => exact foldl_credits credits reqTarget _ entry

theorem reqTarget_of_serves {j : Fin QUEST_OBJECTIVES_COUNT}
    (h : tmpl.serves spell_id entry q j = true) :
    tmpl.reqTarget true q j entry = ((q.RequiredNpcOrGo j).toNat, (q.RequiredNpcOrGo j).toNat) := by
  simp only [serves, Bool.and_eq_true, Bool.or_eq_true, decide_eq_true_eq] at h
  obtain ⟨⟨_, hpos⟩, htarget⟩ := h
  simp only [reqTarget, if_pos hpos, if_true]
  by_cases heq : (q.RequiredNpcOrGo j).toNat = entry
  · rw [if_neg (not_not.mpr heq)]
    exact congrArg _ heq.symm
  · rw [if_pos heq, creditedEntry_eq, if_pos (htarget.resolve_left heq)]

theorem reqTarget_of_not_serves (hne : entry ≠ 0) {j : Fin QUEST_OBJECTIVES_COUNT}
    (hspell : tmpl.RequiredSpellCast q.QuestId j = spell_id)
    (h : ¬tmpl.serves spell_id entry q j = true) :
    (tmpl.reqTarget true q j entry).1 ≠ entry ∧ (tmpl.reqTarget true q j entry).2 = entry := by
  simp only [serves, Bool.and_eq_true, Bool.or_eq_true, decide_eq_true_eq, hspell, true_and,
    not_and, not_or] at h
  simp only [reqTarget, if_true]
  by_cases hpos : 0 < q.RequiredNpcOrGo j
  · obtain ⟨heq, hcredit⟩ := h hpos
    rw [if_pos hpos, if_pos heq, creditedEntry_eq, if_neg hcredit]
    exact ⟨heq, rfl⟩
  · rw [if_neg hpos]
    exact ⟨hne.symm, rfl⟩

/-- **What the loop over the objectives finds**: the first one that is served, and its target is the
entry that is left. -/
theorem castObjective_eq (hne : entry ≠ 0) (js : List (Fin QUEST_OBJECTIVES_COUNT)) :
    tmpl.castObjective spell_id true q js entry =
      match js.find? (tmpl.serves spell_id entry q) with
      | some j => (some j, (q.RequiredNpcOrGo j).toNat)
      | none => (none, entry) := by
  induction js with
  | nil => rfl
  | cons j js ih =>
    rw [castObjective, List.find?_cons]
    by_cases hserves : tmpl.serves spell_id entry q j = true
    · have hspell : tmpl.RequiredSpellCast q.QuestId j = spell_id := by
        simp only [serves, Bool.and_eq_true, decide_eq_true_eq] at hserves
        exact hserves.1.1
      rw [if_neg (not_not.mpr hspell), hserves, reqTarget_of_serves hserves]
      simp
    · rw [Bool.eq_false_iff.mpr hserves]
      by_cases hspell : tmpl.RequiredSpellCast q.QuestId j = spell_id
      · obtain ⟨htarget, hentry⟩ := reqTarget_of_not_serves hne hspell hserves
        rw [if_neg (not_not.mpr hspell)]
        simp only [hentry, if_pos htarget]
        exact ih
      · rw [if_pos hspell]
        exact ih

theorem isSome_killCredit_entryAfter (h : (tmpl.KillCredit entry).isSome = true) (q : Quest) :
    (tmpl.KillCredit (tmpl.entryAfter spell_id entry q)).isSome = true := by
  rw [entryAfter]
  cases hfind : tmpl.objectiveFor spell_id entry q with
  | none => exact h
  | some j =>
    have hserves := List.find?_some hfind
    simp only [serves, Bool.and_eq_true, Bool.or_eq_true, decide_eq_true_eq] at hserves
    obtain ⟨⟨_, hpos⟩, heq | hcredit⟩ := hserves
    · dsimp only
      rw [heq]
      exact h
    · obtain ⟨credits, hcredits⟩ := Option.isSome_iff_exists.mp h
      rw [hcredits, Option.any_some, List.any_eq_true] at hcredit
      obtain ⟨k, _, hk⟩ := hcredit
      rw [decide_eq_true_eq] at hk
      dsimp only
      rw [← hk]
      exact tmpl.named _ _ hcredits k (by omega)

theorem ne_zero_of_isSome (h : (tmpl.KillCredit entry).isSome = true) : entry ≠ 0 := by
  rintro rfl
  rw [tmpl.zero] at h
  cases h

/-! ## What a turn does -/

section Complete

variable {quests : QuestTemplates}

theorem slots_completeIfDone : (l.completeIfDone quests ch id).slots = l.slots := by
  simp only [QuestLog.completeIfDone, QuestLog.CompleteQuest, QuestLog.SetQuestStatus]
  split_ifs <;> rfl

theorem questStatus_setStatus_of_ne {id' : ℕ} (h : id' ≠ id) (status : QuestStatus) :
    (l.SetQuestStatus quests id status).questStatus id' = l.questStatus id' := by
  rw [QuestLog.SetQuestStatus]
  split_ifs
  · exact QuestLog.questStatus_setQuestStatusData_of_ne h
  · rfl

theorem counters_setStatus (status : QuestStatus) :
    counters ((l.SetQuestStatus quests id status).questStatus id) =
      counters (l.questStatus id) := by
  rw [QuestLog.SetQuestStatus]
  split_ifs
  · rw [QuestLog.questStatus_setQuestStatusData_self]
    rfl
  · rfl

theorem questStatus_completeIfDone (id' : ℕ) :
    (id' ≠ id → (l.completeIfDone quests ch id).questStatus id' = l.questStatus id') ∧
      counters ((l.completeIfDone quests ch id).questStatus id') =
        counters (l.questStatus id') := by
  have hset : (id' ≠ id →
      (l.SetQuestStatus quests id .COMPLETE).questStatus id' = l.questStatus id') ∧
      counters ((l.SetQuestStatus quests id .COMPLETE).questStatus id') =
        counters (l.questStatus id') := by
    refine ⟨fun hne => questStatus_setStatus_of_ne hne _, ?_⟩
    by_cases heq : id' = id
    · rw [heq]
      exact counters_setStatus _
    · rw [questStatus_setStatus_of_ne heq]
  simp only [QuestLog.completeIfDone, QuestLog.CompleteQuest]
  split_ifs
  · exact ⟨fun _ => rfl, rfl⟩
  · exact hset
  · exact hset
  · exact ⟨fun _ => rfl, rfl⟩

end Complete

theorem counters_addCast (hq : tmpl.quests.GetQuestTemplate id = some q)
    (j : Fin QUEST_OBJECTIVES_COUNT) (d : QuestStatusData) : counters (addCast q j d) =
      (raise d.CreatureOrGOCount ((some j).filter fun j =>
        d.CreatureOrGOCount j < q.RequiredNpcOrGoCount j), d.ItemCount, d.PlayerCount) := by
  by_cases hroom : d.CreatureOrGOCount j < q.RequiredNpcOrGoCount j
  · have hsmall : d.CreatureOrGOCount j + 1 < 2 ^ 16 :=
      Nat.lt_of_le_of_lt hroom (tmpl.count_lt id q hq j)
    have hfilter : (some j).filter (fun j =>
        decide (d.CreatureOrGOCount j < q.RequiredNpcOrGoCount j)) = some j := by
      simp [Option.filter, hroom]
    rw [hfilter, counters, addCast, if_pos hroom, to16, Nat.mod_eq_of_lt hsmall]
    rfl
  · have hfilter : (some j).filter (fun j =>
        decide (d.CreatureOrGOCount j < q.RequiredNpcOrGoCount j)) = none := by
      simp [Option.filter, hroom]
    rw [hfilter, counters, addCast, if_neg hroom]
    rfl

theorem castQuest_eq_some (h : tmpl.castQuest l id = some quest) :
    tmpl.quests.GetQuestTemplate id = some quest.1 ∧ l.questStatus id = quest.2 := by
  rw [castQuest] at h
  split_ifs at h
  cases hq : tmpl.quests.GetQuestTemplate id with
  | none =>
    rw [hq] at h
    cases h
  | some q =>
    rw [hq] at h
    dsimp only at h
    split_ifs at h
    cases h
    exact ⟨rfl, rfl⟩

/-- What the turn of a slot changes: the quest of the slot, if a cast may count for it. -/
structure TurnSpec (tmpl : CreditTemplates) (spell_id : ℕ) (l : QuestLog) (entry : ℕ)
    (i : Fin MAX_QUEST_LOG_SIZE) (s : QuestLog × ℕ) : Prop where
  slots : s.1.slots = l.slots
  others : ∀ id, id ≠ l.slots i → s.1.questStatus id = l.questStatus id
  quest : counters (s.1.questStatus (l.slots i)) =
    match tmpl.castQuest l (l.slots i) with
    | some quest => tmpl.credited spell_id entry quest
    | none => counters (l.questStatus (l.slots i))
  entry : s.2 = match tmpl.castQuest l (l.slots i) with
    | some quest => tmpl.entryAfter spell_id entry quest.1
    | none => entry

theorem castTurn_spec (tmpl : CreditTemplates) (spell_id : ℕ) (ch : Character) (hne : entry ≠ 0)
    (l : QuestLog) (i : Fin MAX_QUEST_LOG_SIZE) :
    TurnSpec tmpl spell_id l entry i (tmpl.castTurn spell_id ch true (l, entry) i) := by
  have hsame : ∀ id, id ≠ l.slots i →
      (l.setQuestStatusData (l.slots i) (l.questStatus (l.slots i))).questStatus id =
        l.questStatus id := fun id hid => QuestLog.questStatus_setQuestStatusData_of_ne hid
  have hself : (l.setQuestStatusData (l.slots i) (l.questStatus (l.slots i))).questStatus
      (l.slots i) = l.questStatus (l.slots i) := QuestLog.questStatus_setQuestStatusData_self
  by_cases hzero : l.slots i = 0
  · have hnone : tmpl.castQuest l (l.slots i) = none := by simp [castQuest, hzero]
    have hturn : tmpl.castTurn spell_id ch true (l, entry) i = (l, entry) := by
      simp [castTurn, hzero]
    rw [hturn]
    exact ⟨rfl, fun _ _ => rfl, by rw [hnone], by rw [hnone]⟩
  cases hq : tmpl.quests.GetQuestTemplate (l.slots i) with
  | none =>
    have hnone : tmpl.castQuest l (l.slots i) = none := by simp [castQuest, hq]
    have hturn : tmpl.castTurn spell_id ch true (l, entry) i = (l, entry) := by
      simp [castTurn, hq]
    rw [hturn]
    exact ⟨rfl, fun _ _ => rfl, by rw [hnone], by rw [hnone]⟩
  | some q =>
    by_cases hcast : (l.questStatus (l.slots i)).Status = .INCOMPLETE ∧
        q.HasFlag QUEST_TRINITY_FLAGS_KILL_OR_CAST = true
    · have hsome : tmpl.castQuest l (l.slots i) = some (q, l.questStatus (l.slots i)) := by
        simp only [castQuest, if_neg hzero, hq, if_pos hcast]
      cases hfind : tmpl.objectiveFor spell_id entry q with
      | none =>
        have hturn : tmpl.castTurn spell_id ch true (l, entry) i =
            (l.setQuestStatusData (l.slots i) (l.questStatus (l.slots i)), entry) := by
          rw [objectiveFor] at hfind
          simp only [castTurn, if_neg hzero, hq, if_pos hcast, castObjective_eq hne, hfind]
        rw [hturn]
        refine ⟨rfl, hsame, ?_, ?_⟩
        · rw [hself, hsome]
          simp [credited, raisedObjective, hfind, raise, counters]
        · rw [hsome]
          simp [entryAfter, hfind]
      | some j =>
        have hturn : tmpl.castTurn spell_id ch true (l, entry) i =
            (((l.setQuestStatusData (l.slots i) (l.questStatus (l.slots i))).setQuestStatusData
              (l.slots i) (addCast q j (l.questStatus (l.slots i)))).completeIfDone tmpl.quests ch
                (l.slots i), (q.RequiredNpcOrGo j).toNat) := by
          rw [objectiveFor] at hfind
          simp only [castTurn, if_neg hzero, hq, if_pos hcast, castObjective_eq hne, hfind]
        rw [hturn]
        refine ⟨slots_completeIfDone, fun id hid => ?_, ?_, ?_⟩
        · rw [(questStatus_completeIfDone id).1 hid,
            QuestLog.questStatus_setQuestStatusData_of_ne hid, hsame id hid]
        · rw [(questStatus_completeIfDone _).2, QuestLog.questStatus_setQuestStatusData_self,
            counters_addCast hq, hsome]
          simp [credited, raisedObjective, hfind]
        · rw [hsome]
          simp [entryAfter, hfind]
    · have hnone : tmpl.castQuest l (l.slots i) = none := by
        simp only [castQuest, if_neg hzero, hq, if_neg hcast]
      have hturn : tmpl.castTurn spell_id ch true (l, entry) i =
          (l.setQuestStatusData (l.slots i) (l.questStatus (l.slots i)), entry) := by
        simp only [castTurn, if_neg hzero, hq, if_neg hcast]
      rw [hturn]
      exact ⟨rfl, hsame, by rw [hself, hnone], by rw [hnone]⟩

/-! ## What the loop does -/

theorem raise_inj {counts : Fin QUEST_OBJECTIVES_COUNT → ℕ}
    {j? j?' : Option (Fin QUEST_OBJECTIVES_COUNT)} :
    raise counts j? = raise counts j?' ↔ j? = j?' := by
  have hraised : ∀ j : Fin QUEST_OBJECTIVES_COUNT,
      Function.update counts j (counts j + 1) j ≠ counts j := by
    intro j
    rw [Function.update_self]
    omega
  refine ⟨fun h => ?_, fun h => h ▸ rfl⟩
  cases j? with
  | none => cases j?' with
    | none => rfl
    | some j => exact absurd (congrFun h j).symm (hraised j)
  | some j => cases j?' with
    | none => exact absurd (congrFun h j) (hraised j)
    | some j' =>
      by_contra hne
      have hj : j ≠ j' := fun heq => hne (congrArg some heq)
      have hcount := congrFun h j
      dsimp only [raise] at hcount
      rw [Function.update_of_ne hj] at hcount
      exact hraised j hcount

theorem credited_eq_iff {entry' : ℕ} : tmpl.credited spell_id entry quest =
    tmpl.credited spell_id entry' quest ↔
      tmpl.raisedObjective spell_id entry quest = tmpl.raisedObjective spell_id entry' quest := by
  rw [credited, credited, Prod.mk.injEq, raise_inj, and_iff_left rfl]

/-- The counters that a quest should have after a cast. -/
def expected (tmpl : CreditTemplates) (spell_id creature : ℕ) (l : QuestLog) (id : ℕ) :
    (Fin QUEST_OBJECTIVES_COUNT → ℕ) × (Fin QUEST_ITEM_OBJECTIVES_COUNT → ℕ) × ℕ :=
  match tmpl.castQuest l id with
  | some quest => tmpl.credited spell_id creature quest
  | none => counters (l.questStatus id)

@[simp] theorem castQuest_zero : tmpl.castQuest l 0 = none := if_pos rfl

section

variable {s : QuestLog × ℕ} (h : TurnSpec tmpl spell_id l entry i s) (hid : id = l.slots i → id = 0)
include h hid

theorem TurnSpec.castQuest : tmpl.castQuest s.1 id = tmpl.castQuest l id := by
  by_cases heq : id = l.slots i
  · simp [hid heq]
  · rw [CreditTemplates.castQuest, CreditTemplates.castQuest, h.others id heq]

theorem TurnSpec.counters : counters (s.1.questStatus id) = counters (l.questStatus id) := by
  by_cases heq : id = l.slots i
  · have hquest := h.quest
    rw [← heq, hid heq, castQuest_zero] at hquest
    rw [hid heq]
    exact hquest
  · rw [h.others id heq]

theorem TurnSpec.expected (creature : ℕ) :
    expected tmpl spell_id creature s.1 id = expected tmpl spell_id creature l id := by
  rw [CreditTemplates.expected, CreditTemplates.expected, h.castQuest hid, h.counters hid]

end

theorem TurnSpec.isSome_killCredit {s : QuestLog × ℕ} (h : TurnSpec tmpl spell_id l entry i s)
    (hcreature : (tmpl.KillCredit entry).isSome = true) :
    (tmpl.KillCredit s.2).isSome = true := by
  rw [h.entry]
  split
  · exact isSome_killCredit_entryAfter hcreature _
  · exact hcreature

/-- No quest is in two slots of the log. -/
def Once (l : QuestLog) : Prop := ∀ i j, l.slots i ≠ 0 → l.slots i = l.slots j → i = j

/-- **The loop over some slots**: the quests of other slots keep their counters, and the ones of
these slots get what they should when they are undisturbed. -/
theorem castLoop_spec (tmpl : CreditTemplates) (spell_id : ℕ) (ch : Character) (creature : ℕ)
    {is : List (Fin MAX_QUEST_LOG_SIZE)} (hnodup : is.Nodup) (honce : Once l)
    (hcreature : (tmpl.KillCredit entry).isSome = true) :
    (∀ id, (∀ i ∈ is, id = l.slots i → id = 0) →
      counters ((is.foldl (tmpl.castTurn spell_id ch true) (l, entry)).1.questStatus id) =
        counters (l.questStatus id)) ∧
    ((∀ i ∈ is, counters ((is.foldl (tmpl.castTurn spell_id ch true) (l, entry)).1.questStatus
        (l.slots i)) = expected tmpl spell_id creature l (l.slots i)) ↔
      tmpl.Undisturbed spell_id creature (is.filterMap fun i => tmpl.castQuest l (l.slots i))
        entry) := by
  induction is generalizing l entry with
  | nil => exact ⟨fun _ _ => rfl, iff_of_true (by simp) trivial⟩
  | cons i is ih =>
    obtain ⟨hi, hnodup⟩ := List.nodup_cons.mp hnodup
    have hturn := castTurn_spec tmpl spell_id ch (ne_zero_of_isSome hcreature) l i
    rw [List.foldl_cons]
    generalize tmpl.castTurn spell_id ch true (l, entry) i = s at hturn ⊢
    obtain ⟨l₁, entry₁⟩ := s
    have hslots : l₁.slots = l.slots := hturn.slots
    have hentry := hturn.entry
    have hcreature₁ : (tmpl.KillCredit entry₁).isSome = true := hturn.isSome_killCredit hcreature
    obtain ⟨hothers, hiff⟩ := ih hnodup (fun i j => hslots ▸ honce i j) hcreature₁
    rw [hslots] at hothers hiff
    -- the slots that come later hold other quests
    have hlater : ∀ i' ∈ is, l.slots i' = l.slots i → l.slots i' = 0 := by
      intro i' hi' heq
      by_contra hne
      exact hi (honce i' i hne heq ▸ hi')
    have hfirst := (hothers (l.slots i) fun i' hi' heq => heq ▸ hlater i' hi' heq.symm).trans
      hturn.quest
    have hquests : (is.filterMap fun i => tmpl.castQuest l₁ (l.slots i)) =
        is.filterMap fun i => tmpl.castQuest l (l.slots i) :=
      List.filterMap_congr fun i' hi' => hturn.castQuest (hlater i' hi')
    have hrest : (∀ i' ∈ is, counters
        ((is.foldl (tmpl.castTurn spell_id ch true) (l₁, entry₁)).1.questStatus (l.slots i')) =
          expected tmpl spell_id creature l (l.slots i')) ↔
        tmpl.Undisturbed spell_id creature (is.filterMap fun i => tmpl.castQuest l (l.slots i))
          entry₁ := by
      rw [← hquests, ← hiff]
      refine forall_congr' fun i' => forall_congr' fun hi' => ?_
      rw [hturn.expected (hlater i' hi')]
    refine ⟨fun id hid => ?_, ?_⟩
    · rw [hothers id fun i' hi' => hid i' (List.mem_cons_of_mem _ hi')]
      exact hturn.counters (hid i List.mem_cons_self)
    · rw [List.forall_mem_cons, hrest, hfirst, expected, List.filterMap_cons]
      cases hquest : tmpl.castQuest l (l.slots i) with
      | none =>
        rw [hquest] at hentry
        obtain rfl : entry₁ = entry := hentry
        exact and_iff_right rfl
      | some quest =>
        rw [hquest] at hentry
        obtain rfl : entry₁ = tmpl.entryAfter spell_id entry quest.1 := hentry
        exact and_congr credited_eq_iff Iff.rfl

/-! ## When a cast counts as it should -/

theorem creditRight_castedCreatureOrGO_iff {creature : ℕ}
    (hcreature : (tmpl.KillCredit creature).isSome = true) (honce : Once l) :
    tmpl.CreditRight spell_id creature l (tmpl.CastedCreatureOrGO spell_id ch true creature l) ↔
      tmpl.Undisturbed spell_id creature (tmpl.castQuests l) creature := by
  obtain ⟨hothers, hiff⟩ := castLoop_spec tmpl spell_id ch creature
    (List.nodup_finRange MAX_QUEST_LOG_SIZE) honce hcreature
  rw [castQuests, ← hiff]
  constructor
  · intro hright i _
    have hin : l.InLog (l.slots i) := ⟨i, rfl⟩
    have hslot := hright (l.slots i)
    rw [if_pos hin] at hslot
    exact hslot
  · intro hall id
    by_cases hin : l.InLog id
    · obtain ⟨i, rfl⟩ := hin
      rw [if_pos ⟨i, rfl⟩]
      exact hall i (List.mem_finRange i)
    · rw [if_neg hin]
      exact hothers id fun i _ heq => absurd ⟨i, heq.symm⟩ hin

/-- The log with its quests in another order. -/
def reorder (l : QuestLog) (σ : Equiv.Perm (Fin MAX_QUEST_LOG_SIZE)) : QuestLog :=
  { l with slots := l.slots ∘ σ }

theorem swapQuestSlot_eq_reorder (slot1 slot2 : Fin MAX_QUEST_LOG_SIZE) :
    l.SwapQuestSlot slot1 slot2 = reorder l (Equiv.swap slot1 slot2) := by
  have hslots : Function.update (Function.update l.slots slot1 (l.slots slot2)) slot2
      (l.slots slot1) = l.slots ∘ Equiv.swap slot1 slot2 := by
    funext i
    by_cases h2 : i = slot2
    · simp [h2]
    · rw [Function.update_of_ne h2, Function.comp_apply]
      by_cases h1 : i = slot1
      · simp [h1]
      · rw [Function.update_of_ne h1, Equiv.swap_apply_of_ne_of_ne h1 h2]
  rw [QuestLog.SwapQuestSlot, hslots, reorder]

theorem inLog_reorder (σ : Equiv.Perm (Fin MAX_QUEST_LOG_SIZE)) :
    (reorder l σ).InLog id ↔ l.InLog id := by
  constructor
  · rintro ⟨i, hi⟩
    exact ⟨σ i, hi⟩
  · rintro ⟨i, rfl⟩
    exact ⟨σ.symm i, congrArg l.slots (σ.apply_symm_apply i)⟩

theorem once_reorder (honce : Once l) (σ : Equiv.Perm (Fin MAX_QUEST_LOG_SIZE)) :
    Once (reorder l σ) :=
  fun i j hne heq => σ.injective (honce (σ i) (σ j) hne heq)

theorem creditRight_reorder_iff {creature : ℕ} (σ : Equiv.Perm (Fin MAX_QUEST_LOG_SIZE)) :
    tmpl.CreditRight spell_id creature (reorder l σ) l' ↔
      tmpl.CreditRight spell_id creature l l' := by
  refine forall_congr' fun id => ?_
  rw [if_congr (inLog_reorder σ) rfl rfl]
  exact Iff.rfl

/-- No counter exceeds what its quest requires. -/
def Within (tmpl : CreditTemplates) (l : QuestLog) : Prop :=
  ∀ id q, tmpl.quests.GetQuestTemplate id = some q →
    ∀ j, (l.questStatus id).CreatureOrGOCount j ≤ q.RequiredNpcOrGoCount j

theorem Within.raise {quest : QuestWithStatus}
    (h : ∀ j, quest.2.CreatureOrGOCount j ≤ quest.1.RequiredNpcOrGoCount j)
    (j : Fin QUEST_OBJECTIVES_COUNT) : CreditTemplates.raise quest.2.CreatureOrGOCount
      (tmpl.raisedObjective spell_id entry quest) j ≤ quest.1.RequiredNpcOrGoCount j := by
  cases hraised : tmpl.raisedObjective spell_id entry quest with
  | none => exact h j
  | some j' =>
    have hroom := (Option.filter_eq_some_iff.mp hraised).2
    rw [decide_eq_true_eq] at hroom
    dsimp only [CreditTemplates.raise]
    by_cases heq : j = j'
    · subst heq
      rw [Function.update_self]
      exact hroom
    · rw [Function.update_of_ne heq]
      exact h j

theorem Within.turn (h : Within tmpl l) {s : QuestLog × ℕ}
    (hturn : TurnSpec tmpl spell_id l entry i s) : Within tmpl s.1 := by
  intro id q hq j
  by_cases heq : id = l.slots i
  · subst heq
    have hcounts := congrArg Prod.fst hturn.quest
    have hbefore := h (l.slots i) q hq
    cases hquest : tmpl.castQuest l (l.slots i) with
    | none =>
      rw [hquest] at hcounts
      exact (congrFun hcounts j).trans_le (hbefore j)
    | some quest =>
      rw [hquest] at hcounts
      obtain ⟨hq', hstatus⟩ := castQuest_eq_some hquest
      cases hq.symm.trans hq'
      rw [hstatus] at hbefore
      exact (congrFun hcounts j).trans_le (Within.raise hbefore j)
  · rw [hturn.others id heq]
    exact h id q hq j

theorem Within.castLoop (is : List (Fin MAX_QUEST_LOG_SIZE)) (h : Within tmpl l)
    (hcreature : (tmpl.KillCredit entry).isSome = true) :
    Within tmpl (is.foldl (tmpl.castTurn spell_id ch true) (l, entry)).1 := by
  induction is generalizing l entry with
  | nil => exact h
  | cons i is ih =>
    have hturn := castTurn_spec tmpl spell_id ch (ne_zero_of_isSome hcreature) l i
    rw [List.foldl_cons]
    generalize tmpl.castTurn spell_id ch true (l, entry) i = s at hturn ⊢
    exact ih (h.turn hturn) (hturn.isSome_killCredit hcreature)

/-- **When a cast counts as it should**, in every order of the quests; and no counter exceeds what
its quest requires. -/
theorem creditRight_iff (tmpl : CreditTemplates) (spell_id : ℕ) (ch : Character) (creature : ℕ)
    (hcreature : (tmpl.KillCredit creature).isSome = true) (l : QuestLog) (honce : Once l) :
    ((∀ σ, tmpl.CreditRight spell_id creature l
        (tmpl.CastedCreatureOrGO spell_id ch true creature (reorder l σ))) ↔
      ∀ σ, tmpl.Undisturbed spell_id creature (tmpl.castQuests (reorder l σ)) creature) ∧
    (Within tmpl l → ∀ σ,
      Within tmpl (tmpl.CastedCreatureOrGO spell_id ch true creature (reorder l σ))) := by
  refine ⟨forall_congr' fun σ => ?_, fun hwithin σ => ?_⟩
  · rw [← creditRight_reorder_iff σ]
    exact creditRight_castedCreatureOrGO_iff hcreature (once_reorder honce σ)
  · have hreorder : Within tmpl (reorder l σ) := hwithin
    exact hreorder.castLoop _ hcreature

/-- No quest is served otherwise if the entries that are left all serve as the creature does. -/
theorem undisturbed_of_same {creature : ℕ} {P : ℕ → Prop} {quests : List QuestWithStatus}
    (hsame : ∀ entry, P entry → ∀ quest ∈ quests,
      tmpl.objectiveFor spell_id entry quest.1 = tmpl.objectiveFor spell_id creature quest.1 ∧
        P (tmpl.entryAfter spell_id entry quest.1)) :
    ∀ {entry : ℕ}, P entry → tmpl.Undisturbed spell_id creature quests entry := by
  induction quests with
  | nil => exact fun _ => trivial
  | cons quest quests ih =>
    intro entry hentry
    obtain ⟨hserved, hafter⟩ := hsame entry hentry quest List.mem_cons_self
    refine ⟨by rw [raisedObjective, raisedObjective, hserved], ?_⟩
    exact ih (fun entry hentry quest hmem => hsame entry hentry quest (List.mem_cons_of_mem _ hmem))
      hafter

theorem undisturbed_of_noCredits {creature : ℕ}
    (hcredits : tmpl.KillCredit creature = some fun _ => 0) (quests : List QuestWithStatus) :
    tmpl.Undisturbed spell_id creature quests creature := by
  refine undisturbed_of_same (P := fun entry => entry = creature) ?_ rfl
  intro entry hentry quest _
  rw [hentry, entryAfter]
  refine ⟨rfl, ?_⟩
  cases hfind : tmpl.objectiveFor spell_id creature quest.1 with
  | none => rfl
  | some j =>
    have hserves := List.find?_some hfind
    simp only [serves, Bool.and_eq_true, Bool.or_eq_true, decide_eq_true_eq, hcredits,
      Option.any_some, List.any_eq_true] at hserves
    obtain ⟨⟨_, hpos⟩, heq | ⟨_, _, hzero⟩⟩ := hserves
    · exact heq
    · omega

/-! ## Two quests -/

/-- A quest for which a spell is to be cast three times on a creature. -/
def castingQuest (id target : ℕ) : Quest :=
  { QuestLog.plainQuest id QUEST_TRINITY_FLAGS_KILL_OR_CAST with
    RequiredNpcOrGo := fun j => if j = 0 then target else 0
    RequiredNpcOrGoCount := fun j => if j = 0 then 3 else 0 }

/-- Quests for which the same spell is to be cast on creatures of their own. -/
def castingQuests (target : ℕ → ℕ) : QuestTemplates where
  GetQuestTemplate id := if id = 0 then none else some (castingQuest id (target id))
  mExclusiveQuestGroups _ := []
  zero := rfl
  questId id q hq := by
    obtain rfl := Option.some.inj (Option.ite_none_left_eq_some.mp hq).2
    rfl
  grouped id q hq hgroup := by
    obtain rfl := Option.some.inj (Option.ite_none_left_eq_some.mp hq).2
    exact absurd rfl hgroup

/-- Two creatures: 100, which has 200 as a kill credit, and 200. -/
def castingTemplates (target : ℕ → ℕ) : CreditTemplates where
  quests := castingQuests target
  RequiredSpellCast _ j := if j = 0 then 5 else 0
  KillCredit entry :=
    if entry = 100 then some fun k => if k = 0 then 200 else 0
    else if entry = 200 then some fun _ => 0
    else none
  zero := rfl
  named entry credits hcredits k hne := by
    split_ifs at hcredits
    · cases hcredits
      by_cases hk : k = 0
      · simp [hk]
      · simp [hk] at hne
    · cases hcredits
      exact absurd rfl hne
  count_lt id q hq j := by
    obtain rfl := Option.some.inj (Option.ite_none_left_eq_some.mp hq).2
    dsimp only [castingQuest]
    split_ifs <;> decide

def castingLog : QuestLog :=
  { QuestLog.fresh fun _ => 0 with
    slots := fun i => if i = 0 then 1 else if i = 1 then 2 else 0
    m_QuestStatus := (OrderedMap.empty.set 1 { (default : QuestStatusData) with
      Status := .INCOMPLETE }).set 2 { (default : QuestStatusData) with Status := .INCOMPLETE } }

theorem once_castingLog : Once castingLog := by
  unfold Once
  decide +kernel

theorem undisturbed_killCredit (quests : List QuestWithStatus)
    (hquests : ∀ quest ∈ quests, ∃ id, quest.1 = castingQuest id 200) :
    (castingTemplates fun _ => 200).Undisturbed 5 100 quests 100 := by
  refine undisturbed_of_same (P := fun entry => entry = 100 ∨ entry = 200) ?_ (.inl rfl)
  intro entry hentry quest hmem
  obtain ⟨id, hquest⟩ := hquests quest hmem
  have hserved : ∀ entry, entry = 100 ∨ entry = 200 →
      (castingTemplates fun _ => 200).objectiveFor 5 entry (castingQuest id 200) = some 0 := by
    rintro entry (rfl | rfl) <;> rfl
  rw [hquest, entryAfter, hserved entry hentry, hserved 100 (.inl rfl)]
  exact ⟨rfl, .inr rfl⟩

/-- Two quests ask for casts on the kill credit of the creature; their slots have been swapped. -/
theorem creditRight_iff_killCredit :
    (castingTemplates fun _ => 200).CreditRight 5 100 castingLog
      ((castingTemplates fun _ => 200).CastedCreatureOrGO 5 QuestLog.fitCharacter true 100
        (reorder castingLog (Equiv.swap 0 1))) := by
  refine (creditRight_iff (castingTemplates fun _ => 200) 5 QuestLog.fitCharacter 100 rfl castingLog
    once_castingLog).1.mpr (fun σ => undisturbed_killCredit _ fun quest hquest => ?_)
      (Equiv.swap 0 1)
  obtain ⟨i, -, hcast⟩ := List.mem_filterMap.mp hquest
  rw [castQuest] at hcast
  split at hcast
  · cases hcast
  · split at hcast
    · cases hcast
    · next q hq =>
      obtain rfl := Option.some.inj (Option.ite_none_left_eq_some.mp hq).2
      split_ifs at hcast
      exact ⟨_, (congrArg Prod.fst (Option.some.inj hcast)).symm⟩

/-- The quest 1 is served by a kill credit, and the quest 2, which asks for casts on the creature
itself, not any more. -/
theorem not_creditRight_laterQuest :
    ¬(castingTemplates fun id => if id = 1 then 200 else 100).CreditRight 5 100 castingLog
      ((castingTemplates fun id => if id = 1 then 200 else 100).CastedCreatureOrGO 5
        QuestLog.fitCharacter true 100 castingLog) := by
  intro hright
  have hcount := congrFun (congrArg Prod.fst (hright 2)) 0
  revert hcount
  decide +kernel

end CreditTemplates

end TeraCore.Quests
