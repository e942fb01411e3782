import TeraCore.Commons.OrderedMap

/-!
# Lists of conditions

The conditions of a list belong to else-groups, and the list is met when all the conditions of one
group are.  A condition may stand for a list of its own, a reference template, which may again refer
to others.

A template must not refer to itself; but two may refer to each other, and the evaluation of one of
them has no end.  A reference to a template that there is not passes.

## Main results

* `listHolds_iff`: what a list means
* `isObjectMeetToConditions_right`: when the evaluation ends, and finds what the list means
-/

namespace TeraCore

open Commons OrderedMap

inductive ConditionTypes where
  | none
  | aura
  | item
  | itemEquipped
  | zoneid
  | reputationRank
  | team
  | skill
  | questrewarded
  | questtaken
  | drunkenstate
  | worldState
  | activeEvent
  | instanceData
  | questNone
  | class_
  | race
  | achievement
  | title
  | spawnmask
  | unused20
  | unused21
  | mapid
  | areaid
  | unused24
  | spell
  | phasemask
  | level
  | questComplete
  | nearCreature
  | nearGameobject
  | objectEntry
  | typeMask
  | relationTo
  | reactionTo
  | distanceTo
  | alive
  | hpVal
  | hpPct
  deriving DecidableEq

structure Condition where
  ElseGroup : ℕ
  ConditionType : ConditionTypes
  ConditionTarget : ℕ
  ConditionValue1 : BitVec 32
  ConditionValue2 : BitVec 32
  ConditionValue3 : BitVec 32
  NegativeCondition : Bool
  /-- The number of a reference template, or 0. -/
  ReferenceId : ℕ

namespace Condition

def isLoaded (c : Condition) : Bool := c.ConditionType != .none || c.ReferenceId != 0

/-- A condition of an else-group that counts. -/
def inGroup (group : ℕ) (c : Condition) : Bool := c.isLoaded && c.ElseGroup == group

end Condition

/-- `ConditionReferenceStore` -/
abbrev ConditionReferenceContainer : Type := OrderedMap ℕ (List Condition)

/-- A row of `conditions`; the source is a reference template, and the condition a reference, if
their numbers are negative. -/
structure ConditionRow where
  iSourceTypeOrReferenceId : ℤ
  iConditionTypeOrReference : ℤ
  cond : Condition

/-- What **`LoadConditions`** makes of the reference templates for a row. -/
def addRow (isConditionTypeValid : Condition → Bool) (store : ConditionReferenceContainer)
    (row : ConditionRow) : ConditionReferenceContainer :=
  let isReference := row.iConditionTypeOrReference < 0
  let cond := if isReference then
      { row.cond with
        ConditionType := .none
        ReferenceId := row.iConditionTypeOrReference.natAbs }
    else { row.cond with ReferenceId := 0 }
  -- it refers to itself
  if isReference ∧ row.iConditionTypeOrReference = row.iSourceTypeOrReferenceId then store
  else if ¬ isReference ∧ ¬ isConditionTypeValid cond then store
  else if row.iSourceTypeOrReferenceId < 0 then
    let uRefId := row.iSourceTypeOrReferenceId.natAbs
    store.set uRefId ((store.find? uRefId).getD [] ++ [cond])
  -- the row goes to another list
  else store

namespace ConditionReferenceContainer

variable (store : ConditionReferenceContainer) (meets : Condition → Bool)

/-- A condition is checked, a reference by the evaluation of its list. -/
def checkCondition (list : List Condition → Option Bool) (c : Condition) : Option Bool :=
  if c.ReferenceId ≠ 0 then
    match store.find? c.ReferenceId with
    | some conditions => list conditions
    -- only logged
    | none => some true
  else some (meets c)

/-- One turn of the loop of `IsObjectMeetToConditionList`. -/
def checkTurn (list : List Condition → Option Bool) (groups : OrderedMap ℕ Bool) (c : Condition) :
    Option (OrderedMap ℕ Bool) :=
  if c.isLoaded then
    if groups.find? c.ElseGroup = some false then some groups
    else
      let groups := if groups.find? c.ElseGroup = none then groups.set c.ElseGroup true else groups
      (store.checkCondition meets list c).map fun passed =>
        if passed then groups else groups.set c.ElseGroup false
  else some groups

/-- **`IsObjectMeetToConditionList`**, if the calls go no deeper than this. -/
def IsObjectMeetToConditionList : ℕ → List Condition → Option Bool
  | 0, _ => none
  | depth + 1, conditions =>
    (conditions.foldlM (store.checkTurn meets (IsObjectMeetToConditionList depth)) .empty).map
      fun groups => groups.values.any id

def IsObjectMeetToConditions (depth : ℕ) (conditions : List Condition) : Option Bool :=
  if conditions.isEmpty then some true else store.IsObjectMeetToConditionList meets depth conditions

/-! ## What a list means -/

inductive ListHolds : List Condition → Prop where
  | intro {l : List Condition} {c : Condition} (mem : c ∈ l) (loaded : c.isLoaded = true)
      (plain : ∀ c' ∈ l, c'.inGroup c.ElseGroup → c'.ReferenceId = 0 → meets c' = true)
      (known : ∀ c' ∈ l, c'.inGroup c.ElseGroup → c'.ReferenceId ≠ 0 →
        (store.find? c'.ReferenceId).isSome = true)
      (below : ∀ c' ∈ l, c'.inGroup c.ElseGroup → c'.ReferenceId ≠ 0 → ∀ l',
        store.find? c'.ReferenceId = some l' → ListHolds l') : ListHolds l

/-- A reference holds if there is its template, and its list holds. -/
def Holds (c : Condition) : Prop :=
  if c.ReferenceId = 0 then meets c = true
  else ∃ l, store.find? c.ReferenceId = some l ∧ store.ListHolds meets l

/-- No condition of its group that stands before it fails. -/
def Asked (before : List Condition) (c : Condition) : Prop :=
  ∀ c' ∈ before, c'.inGroup c.ElseGroup → store.Holds meets c'

/-- **The references that are looked at have templates, and come to an end.** -/
inductive Grounded : List Condition → Prop where
  | intro {l : List Condition}
      (known : ∀ before c after, l = before ++ c :: after → store.Asked meets before c →
        c.ReferenceId ≠ 0 → (store.find? c.ReferenceId).isSome = true)
      (below : ∀ before c after, l = before ++ c :: after → store.Asked meets before c →
        c.ReferenceId ≠ 0 → ∀ l', store.find? c.ReferenceId = some l' → Grounded l') : Grounded l

variable {store meets} {l before : List Condition} {c : Condition} {groups : OrderedMap ℕ Bool}
  {list : List Condition → Option Bool}

theorem listHolds_iff : store.ListHolds meets l ↔ ∃ c ∈ l, c.isLoaded = true ∧
    ∀ c' ∈ l, c'.inGroup c.ElseGroup → store.Holds meets c' := by
  constructor
  · rintro ⟨hmem, hloaded, hplain, hknown, hbelow⟩
    refine ⟨_, hmem, hloaded, fun c' hc' hin => ?_⟩
    unfold Holds
    split_ifs with href
    · exact hplain c' hc' hin href
    · obtain ⟨l', hl'⟩ := Option.isSome_iff_exists.mp (hknown c' hc' hin href)
      exact ⟨l', hl', hbelow c' hc' hin href l' hl'⟩
  · rintro ⟨c, hmem, hloaded, hall⟩
    refine ⟨hmem, hloaded, fun c' hc' hin href => ?_, fun c' hc' hin href => ?_,
      fun c' hc' hin href l' hl' => ?_⟩
    · have hholds := hall c' hc' hin
      rw [Holds, if_pos href] at hholds
      exact hholds
    · have hholds := hall c' hc' hin
      rw [Holds, if_neg href] at hholds
      obtain ⟨l', hl', -⟩ := hholds
      rw [hl']
      rfl
    · have hholds := hall c' hc' hin
      rw [Holds, if_neg href] at hholds
      obtain ⟨l'', hl'', hlist⟩ := hholds
      rw [Option.some.inj (hl'.symm.trans hl'')]
      exact hlist

/-! ## The groups -/

/-- What is known of a group after some conditions, if there was one of it. -/
def status (holds : Condition → Bool) (group : ℕ) (before : List Condition) : Option Bool :=
  if before.any (·.inGroup group) then some (before.all fun c => !c.inGroup group || holds c)
  else none

/-- **The groups of the conditions that were looked at.** -/
def Tracks (holds : Condition → Bool) (groups : OrderedMap ℕ Bool) (before : List Condition) :
    Prop :=
  ∀ g, groups.find? g = status holds g before

variable {holds : Condition → Bool}

theorem status_eq_some_false_iff {g : ℕ} : status holds g before = some false ↔
    ∃ c ∈ before, c.inGroup g = true ∧ holds c = false := by
  unfold status
  split_ifs with hany
  · simp
  · simp only [false_iff, not_exists, not_and]
    intro c hc hin
    exact absurd (List.any_eq_true.mpr ⟨c, hc, hin⟩) hany

theorem status_eq_some_true_iff {g : ℕ} : status holds g before = some true ↔
    (∃ c ∈ before, c.inGroup g = true) ∧ ∀ c ∈ before, c.inGroup g = true → holds c = true := by
  unfold status
  rw [← List.any_eq_true]
  split_ifs with hany
  · simp [hany, imp_iff_not_or]
  · simp [hany]

theorem status_append_singleton (g : ℕ) (before : List Condition) (c : Condition) :
    status holds g (before ++ [c]) =
      if c.inGroup g then some ((status holds g before).getD true && holds c)
      else status holds g before := by
  unfold status
  cases hc : c.inGroup g with
  | false => simp [hc]
  | true =>
    cases hany : before.any (·.inGroup g) with
    | true => simp [hc, hany]
    | false =>
      have hall : (before.all fun c => !c.inGroup g || holds c) = true := by
        simp only [List.any_eq_false, Bool.not_eq_true] at hany
        exact List.all_eq_true.mpr fun c hc => by rw [hany c hc]; rfl
      rw [List.any_append, List.all_append, hany, hall]
      simp [hc]

theorem asked_iff (hholds : ∀ c, holds c = true ↔ store.Holds meets c)
    (h : Tracks holds groups before) (c : Condition) :
    store.Asked meets before c ↔ groups.find? c.ElseGroup ≠ some false := by
  rw [h, ne_eq, status_eq_some_false_iff, not_exists]
  refine forall_congr' fun c' => ?_
  rw [not_and, not_and, Bool.not_eq_false, hholds]

variable (store meets) in
theorem Tracks.turn (h : Tracks holds groups before) (c : Condition) :
    ∃ groups', Tracks holds groups' (before ++ [c]) ∧
      ∀ list, (c.isLoaded = true → groups.find? c.ElseGroup ≠ some false →
        store.checkCondition meets list c = some (holds c)) →
          store.checkTurn meets list groups c = some groups' := by
  unfold checkTurn
  by_cases hloaded : c.isLoaded = true
  · have hin : ∀ g, c.inGroup g = true ↔ g = c.ElseGroup := fun g => by
      rw [Condition.inGroup, hloaded, Bool.true_and, beq_iff_eq, eq_comm]
    by_cases hfalse : groups.find? c.ElseGroup = some false
    · refine ⟨groups, fun g => ?_, fun list _ => by rw [if_pos hloaded, if_pos hfalse]⟩
      rw [status_append_singleton, ← h]
      split_ifs with hg
      · rw [(hin g).mp hg, hfalse]
        rfl
      · rfl
    · let entered := if groups.find? c.ElseGroup = none then groups.set c.ElseGroup true else groups
      refine ⟨if holds c = true then entered else entered.set c.ElseGroup false, fun g => ?_,
        fun list hlist => ?_⟩
      · rw [status_append_singleton, ← h]
        by_cases hg : g = c.ElseGroup
        · subst hg
          rw [if_pos ((hin _).mpr rfl)]
          cases hfind : groups.find? c.ElseGroup with
          | none => cases holds c <;> simp [entered, hfind]
          | some passed =>
            cases holds c <;> simp [entered, hfind]
        · rw [if_neg fun hing => hg ((hin g).mp hing)]
          dsimp only [entered]
          split_ifs <;> simp only [find?_set, if_neg hg]
      · rw [if_pos hloaded, if_neg hfalse, hlist hloaded hfalse]
        rfl
  · refine ⟨groups, fun g => ?_, fun list _ => if_neg hloaded⟩
    have hout : c.inGroup g = false := by
      rw [Condition.inGroup, Bool.eq_false_of_not_eq_true hloaded, Bool.false_and]
    rw [status_append_singleton, hout, h]
    rfl

theorem Tracks.any_iff (hholds : ∀ c, holds c = true ↔ store.Holds meets c)
    (h : Tracks holds groups l) : groups.values.any id = true ↔ store.ListHolds meets l := by
  rw [listHolds_iff, List.any_eq_true]
  constructor
  · rintro ⟨passed, hmem, rfl⟩
    obtain ⟨g, hg⟩ := mem_values.mp hmem
    obtain ⟨⟨c, hc, hin⟩, hall⟩ := status_eq_some_true_iff.mp ((h g).symm.trans hg)
    obtain ⟨hloaded, hgroup⟩ := Bool.and_eq_true_iff.mp hin
    refine ⟨c, hc, hloaded, fun c' hc' hin' => (hholds c').mp (hall c' hc' ?_)⟩
    exact beq_iff_eq.mp hgroup ▸ hin'
  · rintro ⟨c, hc, hloaded, hall⟩
    refine ⟨true, mem_values.mpr ⟨c.ElseGroup, (h _).trans (status_eq_some_true_iff.mpr ?_)⟩, rfl⟩
    refine ⟨⟨c, hc, ?_⟩, fun c' hc' hin => (hholds c').mpr (hall c' hc' hin)⟩
    rw [Condition.inGroup, hloaded, beq_self_eq_true]
    rfl

/-! ## The end of the evaluation -/

/-- **Grounded lists are found to be what they mean**, however deep the calls may go beyond what
they need. -/
theorem Grounded.finds (h : store.Grounded meets l) :
    ∃ b enough, (b = true ↔ store.ListHolds meets l) ∧
      ∀ depth ≥ enough, store.IsObjectMeetToConditionList meets depth l = some b := by
  classical
  have hholds : ∀ c, decide (store.Holds meets c) = true ↔ store.Holds meets c :=
    fun _ => decide_eq_true_iff
  induction h with
  | @intro l known below ih =>
    -- the conditions after those that have been looked at
    have hloop : ∀ after before groups, l = before ++ after →
        Tracks (fun c => decide (store.Holds meets c)) groups before →
        ∃ enough groups', Tracks (fun c => decide (store.Holds meets c)) groups' l ∧
          ∀ depth ≥ enough, after.foldlM (store.checkTurn meets
            (store.IsObjectMeetToConditionList meets depth)) groups = some groups' := by
      intro after
      induction after with
      | nil =>
        intro before groups hl htracks
        rw [List.append_nil] at hl
        exact ⟨0, groups, hl ▸ htracks, fun _ _ => rfl⟩
      | cons c after ihafter =>
        intro before groups hl htracks
        obtain ⟨enough, hcheck⟩ : ∃ enough, ∀ depth ≥ enough, store.Asked meets before c →
            store.checkCondition meets (store.IsObjectMeetToConditionList meets depth) c =
              some (decide (store.Holds meets c)) := by
          by_cases hasked : store.Asked meets before c
          · by_cases href : c.ReferenceId = 0
            · refine ⟨0, fun _ _ _ => ?_⟩
              rw [checkCondition, if_neg (not_not.mpr href)]
              simp [Holds, href]
            · obtain ⟨l', hl'⟩ := Option.isSome_iff_exists.mp (known before c after hl hasked href)
              obtain ⟨b, enough, hb, hfinds⟩ := ih before c after hl hasked href l' hl'
              refine ⟨enough, fun depth hdepth _ => ?_⟩
              rw [checkCondition, if_pos href, hl']
              refine (hfinds depth hdepth).trans (congrArg some (Bool.eq_iff_iff.mpr ?_))
              simp [hb, Holds, href, hl']
          · exact ⟨0, fun _ _ h => absurd h hasked⟩
        obtain ⟨groups', htracks', hturn⟩ := htracks.turn store meets c
        obtain ⟨enough', groups'', htracks'', hrest⟩ := ihafter (before ++ [c]) groups'
          (by rw [hl, List.append_assoc]; rfl) htracks'
        refine ⟨max enough enough', groups'', htracks'', fun depth hdepth => ?_⟩
        rw [List.foldlM_cons, hturn _ fun _ hfalse => hcheck depth
          ((le_max_left _ _).trans hdepth) ((asked_iff hholds htracks c).mpr hfalse)]
        exact hrest depth ((le_max_right _ _).trans hdepth)
    obtain ⟨enough, groups, htracks, hloop⟩ := hloop l [] .empty rfl fun _ => rfl
    refine ⟨groups.values.any id, enough + 1, htracks.any_iff hholds, fun depth hdepth => ?_⟩
    obtain ⟨depth, rfl⟩ := Nat.exists_eq_add_of_le' hdepth
    rw [← Nat.add_assoc, IsObjectMeetToConditionList, hloop _ (Nat.le_add_left _ _)]
    rfl

/-- Every reference of the list, and of the templates, has a template. -/
def Complete (store : ConditionReferenceContainer) (l : List Condition) : Prop :=
  (∀ c ∈ l, c.ReferenceId ≠ 0 → (store.find? c.ReferenceId).isSome = true) ∧
    ∀ k l', store.find? k = some l' → ∀ c ∈ l', c.ReferenceId ≠ 0 →
      (store.find? c.ReferenceId).isSome = true

theorem grounded_of_ends {depth : ℕ} {b : Bool} (h : store.Complete l)
    (hends : store.IsObjectMeetToConditionList meets depth l = some b) :
    store.Grounded meets l ∧ (b = true ↔ store.ListHolds meets l) := by
  classical
  have hholds : ∀ c, decide (store.Holds meets c) = true ↔ store.Holds meets c :=
    fun _ => decide_eq_true_iff
  induction depth generalizing l b with
  | zero => cases hends
  | succ depth ih =>
    obtain ⟨groups, hfold, rfl⟩ := Option.map_eq_some_iff.mp hends
    have hcheck : ∀ c ∈ l, ∀ b, store.checkCondition meets
        (store.IsObjectMeetToConditionList meets depth) c = some b →
        b = decide (store.Holds meets c) ∧ ∀ l', c.ReferenceId ≠ 0 →
          store.find? c.ReferenceId = some l' → store.Grounded meets l' := by
      intro c hc b hb
      unfold checkCondition at hb
      rw [Bool.eq_iff_iff, hholds, Holds]
      split_ifs at hb with href
      · obtain ⟨l', hl'⟩ := Option.isSome_iff_exists.mp (h.1 c hc href)
        rw [hl'] at hb ⊢
        obtain ⟨hgrounded, hiff⟩ := ih ⟨h.2 _ l' hl', h.2⟩ hb
        rw [if_neg href, hiff]
        exact ⟨by simp, fun l'' _ heq => Option.some.inj heq ▸ hgrounded⟩
      · rw [if_pos (not_not.mp href), ← Option.some.inj hb]
        exact ⟨Iff.rfl, fun l' hne => absurd hne href⟩
    -- the conditions after those that have been looked at
    have hloop : ∀ after before groups₀, l = before ++ after →
        Tracks (fun c => decide (store.Holds meets c)) groups₀ before →
        after.foldlM (store.checkTurn meets (store.IsObjectMeetToConditionList meets depth))
          groups₀ = some groups →
        Tracks (fun c => decide (store.Holds meets c)) groups l ∧
          ∀ front c rest, after = front ++ c :: rest → store.Asked meets (before ++ front) c →
            c.ReferenceId ≠ 0 → ∀ l', store.find? c.ReferenceId = some l' →
              store.Grounded meets l' := by
      intro after
      induction after with
      | nil =>
        intro before groups₀ hl htracks hfold
        rw [List.append_nil] at hl
        refine ⟨hl ▸ Option.some.inj hfold ▸ htracks, fun front c rest hnil => ?_⟩
        exact absurd hnil.symm (List.append_ne_nil_of_right_ne_nil _ (List.cons_ne_nil c rest))
      | cons c after ihafter =>
        intro before groups₀ hl htracks hfold
        have hc : c ∈ l := hl ▸ List.mem_append_right _ List.mem_cons_self
        rw [List.foldlM_cons] at hfold
        obtain ⟨groups₁, hturn, hfold⟩ := Option.bind_eq_some_iff.mp hfold
        have hasks : c.isLoaded = true → groups₀.find? c.ElseGroup ≠ some false →
            ∃ b, store.checkCondition meets
              (store.IsObjectMeetToConditionList meets depth) c = some b := by
          intro hloaded hfalse
          rw [checkTurn, if_pos hloaded, if_neg hfalse] at hturn
          obtain ⟨b, hb, -⟩ := Option.map_eq_some_iff.mp hturn
          exact ⟨b, hb⟩
        obtain ⟨groups', htracks', hturn'⟩ := htracks.turn store meets c
        rw [hturn' _ fun hloaded hfalse => by
          obtain ⟨b, hb⟩ := hasks hloaded hfalse
          rw [hb, (hcheck c hc b hb).1]] at hturn
        obtain rfl := Option.some.inj hturn
        obtain ⟨hdone, hgrounded⟩ :=
          ihafter (before ++ [c]) groups' (by rw [hl, List.append_assoc]; rfl) htracks' hfold
        refine ⟨hdone, fun front c' rest hafter hasked href l' hl' => ?_⟩
        cases front with
        | nil =>
          obtain ⟨rfl, -⟩ := List.cons.inj hafter
          rw [List.append_nil] at hasked
          have hloaded : c.isLoaded = true := by simp [Condition.isLoaded, href]
          obtain ⟨b, hb⟩ := hasks hloaded ((asked_iff hholds htracks c).mp hasked)
          exact (hcheck c hc b hb).2 l' href hl'
        | cons c₀ front =>
          obtain ⟨hc₀, hrest⟩ := List.cons.inj hafter
          refine hgrounded front c' rest hrest ?_ href l' hl'
          rw [List.append_assoc, hc₀]
          exact hasked
    obtain ⟨htracks, hgrounded⟩ := hloop l [] .empty rfl (fun _ => rfl) hfold
    refine ⟨⟨fun before c after hl _ href => ?_, hgrounded⟩, htracks.any_iff hholds⟩
    exact h.1 c (hl ▸ List.mem_append_right _ List.mem_cons_self) href

/-- **The evaluation ends, and finds what the list means.** -/
def Right (store : ConditionReferenceContainer) (meets : Condition → Bool) (l : List Condition) :
    Prop :=
  ∃ b, (∃ enough, ∀ depth ≥ enough, store.IsObjectMeetToConditions meets depth l = some b) ∧
    (b = true ↔ l = [] ∨ store.ListHolds meets l)

/-- **The evaluation is right for grounded lists**; where no template is missing, for no others. -/
theorem isObjectMeetToConditions_right (store : ConditionReferenceContainer)
    (meets : Condition → Bool) (l : List Condition) :
    (store.Grounded meets l → store.Right meets l) ∧
      (store.Complete l → store.Right meets l → store.Grounded meets l) := by
  cases l with
  | nil =>
    refine ⟨fun _ => ⟨true, ⟨0, fun _ _ => rfl⟩, iff_of_true rfl (.inl rfl)⟩, fun _ _ => ?_⟩
    exact ⟨fun before c after hl => (List.append_ne_nil_of_right_ne_nil before
        (List.cons_ne_nil c after) hl.symm).elim,
      fun before c after hl => (List.append_ne_nil_of_right_ne_nil before
        (List.cons_ne_nil c after) hl.symm).elim⟩
  | cons c l =>
    constructor
    · intro h
      obtain ⟨b, enough, hb, hfinds⟩ := h.finds
      exact ⟨b, ⟨enough, hfinds⟩, hb.trans (or_iff_right (List.cons_ne_nil c l)).symm⟩
    · rintro h ⟨b, ⟨enough, hends⟩, -⟩
      exact (grounded_of_ends h (hends enough le_rfl)).1

/-- A reference, and nothing else. -/
def reference (ReferenceId : ℕ) : Condition :=
  ⟨0, .none, 0, 0, 0, 0, false, ReferenceId⟩

def levelCondition (ElseGroup : ℕ) (level : BitVec 32) : Condition :=
  ⟨ElseGroup, .level, 0, level, 0, 0, false, 0⟩

/-- A template with two else-groups, of which the first refers to another template. -/
def nestedTemplates : ConditionReferenceContainer :=
  [⟨-1, -2, reference 0⟩, ⟨-1, 27, levelCondition 1 80⟩, ⟨-2, 27, levelCondition 0 70⟩].foldl
    (addRow fun _ => true) .empty

theorem grounded_of_forall (h : ∀ c ∈ l, c.ReferenceId ≠ 0 →
    ∃ l', store.find? c.ReferenceId = some l' ∧ store.Grounded meets l') :
    store.Grounded meets l := by
  refine ⟨fun before c after hl _ href => ?_, fun before c after hl _ href l' hl' => ?_⟩
  · obtain ⟨l', hl', -⟩ := h c (hl ▸ List.mem_append_right _ List.mem_cons_self) href
    rw [hl']
    rfl
  · obtain ⟨l'', hl'', hgrounded⟩ := h c (hl ▸ List.mem_append_right _ List.mem_cons_self) href
    rwa [Option.some.inj (hl'.symm.trans hl'')]

theorem grounded_nestedTemplates (meets : Condition → Bool) :
    nestedTemplates.Grounded meets [reference 1] := by
  have hsecond : nestedTemplates.Grounded meets [levelCondition 0 70] :=
    grounded_of_forall (by simp [levelCondition])
  have hfirst : nestedTemplates.Grounded meets [reference 2, levelCondition 1 80] :=
    grounded_of_forall (by simpa [reference, levelCondition] using ⟨_, rfl, hsecond⟩)
  exact grounded_of_forall (by simpa [reference] using ⟨_, rfl, hfirst⟩)

/-- Who is of level 70 meets the list by the template that the first template refers to. -/
theorem right_nestedTemplates :
    nestedTemplates.IsObjectMeetToConditions (fun c => c.ConditionValue1 == 70) 3 [reference 1] =
        some true ∧
      nestedTemplates.Right (fun c => c.ConditionValue1 == 70) [reference 1] :=
  ⟨by decide, (isObjectMeetToConditions_right nestedTemplates _ [reference 1]).1
    (grounded_nestedTemplates _)⟩

/-- Two templates that refer to each other. -/
def mutualTemplates : ConditionReferenceContainer :=
  [⟨-1, -2, reference 0⟩, ⟨-2, -1, reference 0⟩].foldl (addRow fun _ => true) .empty

theorem not_right_mutualTemplates : ¬ mutualTemplates.Right (fun _ => true) [reference 1] := by
  have hnone : ∀ depth,
      mutualTemplates.IsObjectMeetToConditionList (fun _ => true) depth [reference 1] = none ∧
      mutualTemplates.IsObjectMeetToConditionList (fun _ => true) depth [reference 2] = none := by
    intro depth
    induction depth with
    | zero => exact ⟨rfl, rfl⟩
    | succ depth ih =>
      have hfirst : mutualTemplates.find? 1 = some [reference 2] := rfl
      have hsecond : mutualTemplates.find? 2 = some [reference 1] := rfl
      constructor
      · simp [IsObjectMeetToConditionList, checkTurn, checkCondition, reference,
          Condition.isLoaded, hfirst] at ih ⊢
        exact ih.2
      · simp [IsObjectMeetToConditionList, checkTurn, checkCondition, reference,
          Condition.isLoaded, hsecond] at ih ⊢
        exact ih.1
  rintro ⟨b, ⟨enough, hends⟩, -⟩
  have hsome : mutualTemplates.IsObjectMeetToConditionList (fun _ => true) enough [reference 1] =
      some b := hends enough le_rfl
  rw [(hnone enough).1] at hsome
  cases hsome

end ConditionReferenceContainer

end TeraCore
