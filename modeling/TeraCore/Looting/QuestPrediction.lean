import TeraCore.Looting.DropLimits

/-!
# Loot templates: whether a quest item may drop

Corpses and chests sparkle for a quest if their template includes an entry for quest items.  That
is found out by a search of its own, over the entries, the groups and the references.

The search says what a template includes, and not what it can drop: an entry after a certain one of
its group is included, and never drops.  And the search looks for references in the store it was
asked of, where they are processed from the store of referenced templates.

## Main results

* `hasQuestDrop_spec`: the search finds what is included
* `exists_outcome_of_met`: what can drop, drops in some outcome
* `haveQuestLootFor_spec`: the search and processing, where both follow the same references
-/

namespace TeraCore.LootTemplates

open Commons

/-! ## Valid rows -/

/-- **`IsValid`** -/
def LootStoreItem.IsValid (w : World) (e : LootStoreItem) : Bool :=
  if 2 ^ 7 ≤ e.group then false
  else if e.mincountOrRef = 0 then false
  else if 0 < e.mincountOrRef then
    (w.template e.itemid).isSome && !(e.chance == 0 && e.group == 0) &&
      !(e.chance != 0 && decide (e.chance < 1 / 1000000)) && !decide (e.maxcount < e.mincountOrRef)
  else e.needs_quest || e.chance != 0

/-- The constructor of an entry, from a row; the group has seven bits. -/
def LootStoreItem.ofRow (itemid : ℕ) (chanceOrQuestChance : ℚ) (lootmode : BitVec 16) (group : ℕ)
    (mincountOrRef : ℤ) (maxcount : ℕ) : LootStoreItem where
  itemid := itemid
  chance := |chanceOrQuestChance|
  mincountOrRef := mincountOrRef
  lootmode := lootmode
  group := group % 2 ^ 7
  needs_quest := decide (chanceOrQuestChance < 0)
  maxcount := maxcount

namespace LootTemplate

/-- **The templates that are loaded**: from one valid row after the other. -/
inductive Loaded (w : World) : LootTemplate → Prop
  | empty : Loaded w ⟨[], []⟩
  | add {t} (h : Loaded w t) (itemid : ℕ) (chanceOrQuestChance : ℚ) (lootmode : BitVec 16)
    (group : ℕ) (mincountOrRef : ℤ) (maxcount : ℕ)
    (hvalid : (LootStoreItem.ofRow itemid chanceOrQuestChance lootmode group mincountOrRef
      maxcount).IsValid w = true) :
    Loaded w (t.AddEntry (.ofRow itemid chanceOrQuestChance lootmode group mincountOrRef maxcount))

/-! ## The search -/

/-- The loop over the entries, until a quest drop is found. -/
def anyQuestEntry (store : LootTemplateMap) (hasQuestDrop : LootTemplate → ℕ → Option Bool) :
    List LootStoreItem → Option Bool
  | [] => some false
  | e :: rest =>
    if e.mincountOrRef < 0 then
      match store e.ref with
      | none => anyQuestEntry store hasQuestDrop rest
      | some referenced =>
        match hasQuestDrop referenced e.group with
        | none => none
        | some true => some true
        | some false => anyQuestEntry store hasQuestDrop rest
    else if e.needs_quest then some true
    else anyQuestEntry store hasQuestDrop rest

def hasQuestDropWith (store : LootTemplateMap) (hasQuestDrop : LootTemplate → ℕ → Option Bool)
    (t : LootTemplate) (groupId : ℕ) : Option Bool :=
  if groupId ≠ 0 then some ((t.Groups[groupId - 1]?).any LootGroup.HasQuestDrop)
  else
    match anyQuestEntry store hasQuestDrop t.Entries with
    | none => none
    | some true => some true
    | some false => some (t.Groups.any LootGroup.HasQuestDrop)

/-- **`HasQuestDrop`**, to a depth of references; nothing where they go deeper. -/
def HasQuestDrop (store : LootTemplateMap) : ℕ → LootTemplate → ℕ → Option Bool
  | 0 => hasQuestDropWith store fun _ _ => none
  | depth + 1 => hasQuestDropWith store (HasQuestDrop store depth)

def HaveQuestLootFor (store : LootTemplateMap) (depth loot_id : ℕ) : Option Bool :=
  match store loot_id with
  | none => some false
  | some t => HasQuestDrop store depth t 0

/-! ## What is included -/

/-- A quest entry that is no reference. -/
def QuestEntry (e : LootStoreItem) (o : Option LootGroup) : Prop :=
  e.needs_quest = true ∧ (o = none → 0 ≤ e.mincountOrRef)

/-- **A template includes a quest entry**, on its own or by its references. -/
def Includes (references : LootTemplateMap) (t : LootTemplate) (groupId : ℕ) : Prop :=
  ∃ e o, Met references (fun _ => True) t groupId e o ∧ QuestEntry e o

/-- The references that are met lead to the same templates in both stores. -/
def Alike (store references : LootTemplateMap) (t : LootTemplate) (groupId : ℕ) : Prop :=
  ∀ e, Met references (fun _ => True) t groupId e none → e.mincountOrRef < 0 →
    store e.ref = references e.ref

variable {w : World} {store references : LootTemplateMap} {t : LootTemplate} {groupId depth : ℕ}
  {e : LootStoreItem} {rank : ℕ → ℕ}

theorem hasQuestDrop_group {g : LootGroup} :
    g.HasQuestDrop = true ↔ ∃ e ∈ g.entries, e.needs_quest = true := by
  simp [LootGroup.HasQuestDrop, LootGroup.entries, or_and_right, exists_or]

/-- An entry that the search stops at. -/
def Stops (references : LootTemplateMap) (e : LootStoreItem) : Prop :=
  (0 ≤ e.mincountOrRef ∧ e.needs_quest = true) ∨
    (e.mincountOrRef < 0 ∧ ∃ t', references e.ref = some t' ∧ Includes references t' e.group)

theorem includes_zero : Includes references t 0 ↔
    (∃ e ∈ t.Entries, Stops references e) ∨ ∃ g ∈ t.Groups, g.HasQuestDrop = true := by
  constructor
  · rintro ⟨e, o, hmet, hquest⟩
    cases hmet with
    | entry he => exact .inl ⟨e, he, .inl ⟨hquest.2 rfl, hquest.1⟩⟩
    | grouped hg he => exact .inr ⟨_, hg, hasQuestDrop_group.mpr ⟨e, he, hquest.1⟩⟩
    | groupReference hid => exact absurd rfl hid
    | reference hr href _ ht' h => exact .inl ⟨_, hr, .inr ⟨href, _, ht', e, o, h, hquest⟩⟩
  · rintro (⟨e, he, ⟨hitem, hquest⟩ | ⟨href, t', ht', e', o, h, hquest⟩⟩ | ⟨g, hg, hquest⟩)
    · exact ⟨e, none, .entry he, hquest, fun _ => hitem⟩
    · exact ⟨e', o, .reference he href trivial ht' h, hquest⟩
    · obtain ⟨e, he, hquest⟩ := hasQuestDrop_group.mp hquest
      exact ⟨e, some g, .grouped hg he, hquest, nofun⟩

theorem includes_group (hid : groupId ≠ 0) : Includes references t groupId ↔
    (t.Groups[groupId - 1]?).any LootGroup.HasQuestDrop = true := by
  constructor
  · rintro ⟨e, o, hmet, hquest⟩
    cases hmet with
    | entry => exact absurd rfl hid
    | grouped => exact absurd rfl hid
    | groupReference _ hg he =>
      rw [hg]
      exact hasQuestDrop_group.mpr ⟨e, he, hquest.1⟩
    | reference => exact absurd rfl hid
  · intro h
    cases hg : t.Groups[groupId - 1]? with
    | none => simp [hg] at h
    | some g =>
      rw [hg] at h
      obtain ⟨e, he, hquest⟩ := hasQuestDrop_group.mp h
      exact ⟨e, some g, .groupReference hid hg he, hquest, nofun⟩

theorem anyQuestEntry_spec {hasQuestDrop : LootTemplate → ℕ → Option Bool} {l : List LootStoreItem}
    (h : ∀ e ∈ l, e.mincountOrRef < 0 → store e.ref = references e.ref ∧
      ∀ t', references e.ref = some t' →
        ∃ b, hasQuestDrop t' e.group = some b ∧ (b = true ↔ Includes references t' e.group)) :
    ∃ b, anyQuestEntry store hasQuestDrop l = some b ∧
      (b = true ↔ ∃ e ∈ l, Stops references e) := by
  induction l with
  | nil => exact ⟨false, rfl, by simp⟩
  | cons e rest ih =>
    obtain ⟨b, hb, hrest⟩ := ih fun e' he' => h e' (List.mem_cons_of_mem _ he')
    have hgoOn : ¬Stops references e →
        (b = true ↔ ∃ e' ∈ e :: rest, Stops references e') := by
      intro hnot
      rw [hrest]
      simp only [List.mem_cons, exists_eq_or_imp, hnot, false_or]
    have hstop : Stops references e → (true = true ↔ ∃ e' ∈ e :: rest, Stops references e') :=
      fun hstops => ⟨fun _ => ⟨e, List.mem_cons_self, hstops⟩, fun _ => rfl⟩
    rw [anyQuestEntry]
    by_cases href : e.mincountOrRef < 0
    · obtain ⟨halike, hreferenced⟩ := h e List.mem_cons_self href
      rw [if_pos href, halike]
      have hstops : Stops references e ↔
          ∃ t', references e.ref = some t' ∧ Includes references t' e.group :=
        ⟨fun hstops => hstops.elim (fun h => absurd href (not_lt.mpr h.1)) And.right,
          fun h => .inr ⟨href, h⟩⟩
      cases ht' : references e.ref with
      | none =>
        refine ⟨b, hb, hgoOn fun hs => ?_⟩
        obtain ⟨t', hsome, -⟩ := hstops.mp hs
        rw [ht'] at hsome
        cases hsome
      | some t' =>
        obtain ⟨b', hb', hincludes⟩ := hreferenced t' ht'
        simp only [hb']
        cases b' with
        | true => exact ⟨true, rfl, hstop (hstops.mpr ⟨t', ht', hincludes.mp rfl⟩)⟩
        | false =>
          refine ⟨b, hb, hgoOn fun hs => ?_⟩
          obtain ⟨t'', hsome, h⟩ := hstops.mp hs
          rw [ht'] at hsome
          cases hsome
          exact absurd (hincludes.mpr h) (by decide)
    · rw [if_neg href]
      split_ifs with hquest
      · exact ⟨true, rfl, hstop (.inl ⟨not_lt.mp href, hquest⟩)⟩
      · refine ⟨b, hb, hgoOn fun hs => ?_⟩
        rcases hs with ⟨-, h⟩ | ⟨h, -⟩
        · exact hquest h
        · exact href h

theorem hasQuestDropWith_spec {hasQuestDrop : LootTemplate → ℕ → Option Bool}
    (halike : Alike store references t groupId)
    (h : groupId = 0 → ∀ e ∈ t.Entries, e.mincountOrRef < 0 → ∀ t', references e.ref = some t' →
      ∃ b, hasQuestDrop t' e.group = some b ∧ (b = true ↔ Includes references t' e.group)) :
    ∃ b, hasQuestDropWith store hasQuestDrop t groupId = some b ∧
      (b = true ↔ Includes references t groupId) := by
  unfold hasQuestDropWith
  by_cases hid : groupId = 0
  · subst hid
    obtain ⟨b, hb, hstops⟩ := anyQuestEntry_spec fun e he href =>
      ⟨halike e (.entry he) href, h rfl e he href⟩
    rw [if_neg (not_not.mpr rfl), hb, includes_zero, ← hstops]
    cases b with
    | true => exact ⟨true, rfl, by simp⟩
    | false => exact ⟨_, rfl, by simp⟩
  · rw [if_pos hid]
    exact ⟨_, rfl, (includes_group hid).symm⟩

/-- **The search finds what is included**, where it follows the same references; by induction on
their depth. -/
theorem hasQuestDrop_spec (hrank : ∀ id t, references id = some t →
    ∀ e ∈ t.Entries, e.mincountOrRef < 0 → rank e.ref < rank id) (depth : ℕ)
    (ht : ∀ e ∈ t.Entries, e.mincountOrRef < 0 → rank e.ref < depth)
    (halike : Alike store references t groupId) :
    ∃ b, HasQuestDrop store depth t groupId = some b ∧
      (b = true ↔ Includes references t groupId) := by
  induction depth generalizing t groupId with
  | zero =>
    apply hasQuestDropWith_spec halike
    intro _ e he href
    exact absurd (ht e he href) (Nat.not_lt_zero _)
  | succ depth ih =>
    apply hasQuestDropWith_spec halike
    intro hid e he href t' ht'
    subst hid
    have hlt := ht e he href
    apply ih
    · intro e' he' href'
      have hlower := hrank e.ref t' ht' e' he' href'
      omega
    · intro e' hmet
      exact halike e' (.reference he href trivial ht' hmet)

/-! ## What drops is included -/

variable {loot : Loot} {template : ℕ → Option ItemTemplate}

theorem quest_items_AddItem_of_not (h : e.needs_quest = false) :
    (loot.AddItem e).quest_items = loot.quest_items := by
  unfold Loot.AddItem
  rw [h, if_neg Bool.false_ne_true]
  split_ifs <;> rfl

theorem quest_items_AddItem_ne_nil (h : e.needs_quest = true ∨ loot.quest_items ≠ []) :
    (loot.AddItem e).quest_items ≠ [] := by
  cases hquest : e.needs_quest with
  | false =>
    rw [quest_items_AddItem_of_not hquest]
    exact h.resolve_left (by simp [hquest])
  | true =>
    unfold Loot.AddItem
    rw [hquest, if_pos rfl]
    split_ifs with hroom
    · exact List.append_ne_nil_of_right_ne_nil _ (List.cons_ne_nil _ _)
    · intro hnil
      rw [hnil] at hroom
      exact hroom (Nat.zero_lt_succ _)

theorem includes_of_outcome {rate : Bool} {lootMode : BitVec 16}
    (h : (Process w references rate lootMode depth t groupId .empty).Outcome loot)
    (hdrops : loot.quest_items ≠ []) : Includes references t groupId := by
  have hkept : loot.quest_items ≠ [] → Includes references t groupId := by
    refine process_invariant (P := fun loot => loot.quest_items ≠ [] → _) depth ?_ ?_
      (fun hne => absurd rfl hne) h
    · intro loot e g hmet hloot _ _ hne
      cases hquest : e.needs_quest with
      | false => exact hloot (quest_items_AddItem_of_not hquest ▸ hne)
      | true => exact ⟨e, some g, hmet, hquest, nofun⟩
    · intro loot e hmet hloot hitem _ hne
      cases hquest : e.needs_quest with
      | false => exact hloot (quest_items_AddItem_of_not hquest ▸ hne)
      | true => exact ⟨e, none, hmet, hquest, fun _ => hitem⟩
  exact hkept hdrops

/-! ## What is included and can drop -/

/-- All bits of a mode. -/
abbrev everyMode : BitVec 16 := BitVec.allOnes 16

/-- A world in which all rates are 1. -/
def unrated (template : ℕ → Option ItemTemplate) : World := ⟨template, fun _ => 1, 1, 1⟩

/-- **A quest entry can drop** that a template includes: the references to it have a count; and if
it is in a group, then the group alone may add it, and no item of its kind drops otherwise. -/
def CanDrop (w : World) (references : LootTemplateMap) (t : LootTemplate) (groupId : ℕ) : Prop :=
  ∃ e o, Met references (fun r => 0 < r.maxcount) t groupId e o ∧ QuestEntry e o ∧
    ∀ g, o = some g →
      (∃ loot, (g.Process w everyMode .empty).Outcome loot ∧ e ∈ loot.quest_items) ∧
      ∀ e' o', Met references (fun _ => True) t groupId e' o' → e'.needs_quest = false →
        e'.itemid ≠ e.itemid

/-- The additions of the entries that are met keep a property. -/
def Keeps (references : LootTemplateMap) (P : Loot → Prop) (t : LootTemplate)
    (groupId : ℕ) : Prop :=
  ∀ loot e o, Met references (fun _ => True) t groupId e o → P loot →
    ∀ rolled, P { loot.AddItem e with rolled := rolled }

/-- What processes the references of an entry, to the depth that is left. -/
def processReferenced (w : World) (references : LootTemplateMap) (rate : Bool)
    (lootMode : BitVec 16) : ℕ → LootTemplate → ℕ → Loot → Draws Loot
  | 0 => fun _ _ _ => .stuck
  | depth + 1 => Process w references rate lootMode depth

variable {rate : Bool} {lootMode : BitVec 16} {P : Loot → Prop} {loot' : Loot} {t' : LootTemplate}
  {g : LootGroup} {o : Option LootGroup}

theorem process_eq : Process w references rate lootMode depth =
    processWith w references rate lootMode
      (processReferenced w references rate lootMode depth) := by
  cases depth <;> rfl

theorem Keeps.reference (h : Keeps references P t 0) (he : e ∈ t.Entries)
    (href : e.mincountOrRef < 0) (ht' : references e.ref = some t') :
    Keeps references P t' e.group :=
  fun loot e' o hmet => h loot e' o (.reference he href trivial ht' hmet)

theorem Keeps.process (h : Keeps references P t groupId) (hloot : P loot)
    (hout : (Process w references rate lootMode depth t groupId loot).Outcome loot') : P loot' :=
  process_invariant depth (fun loot e g hmet hloot _ _ => h loot e (some g) hmet hloot _)
    (fun loot e hmet hloot _ _ => h loot e none hmet hloot _) hloot hout

theorem Keeps.processEntry (h : Keeps references P t 0) (he : e ∈ t.Entries) (hloot : P loot)
    (hout : (processEntry w references rate lootMode
      (processReferenced w references rate lootMode depth) loot e).Outcome loot') : P loot' := by
  refine processEntry_invariant (fun loot hloot _ _ => h loot e none (.entry he) hloot _) ?_ hloot
    hout
  intro t' href ht' loot loot' hloot hout
  cases depth with
  | zero => exact False.elim hout
  | succ depth => exact (h.reference he href ht').process hloot hout

theorem Keeps.group (h : Keeps references P t 0) (hg : g ∈ t.Groups) (hloot : P loot)
    (hout : (g.Process w lootMode loot).Outcome loot') : P loot' :=
  process_group_invariant
    (fun loot e he hloot _ _ => h loot e (some g) (.grouped hg he) hloot _) hloot hout

theorem keeps_quest_items : Keeps references (fun loot => loot.quest_items ≠ []) t groupId :=
  fun _ _ _ _ hloot _ => quest_items_AddItem_ne_nil (.inr hloot)

theorem keeps_group (hloot : loot.quest_items ≠ [])
    (hout : (g.Process w lootMode loot).Outcome loot') : loot'.quest_items ≠ [] :=
  process_group_invariant (P := fun loot => loot.quest_items ≠ [])
    (fun _ _ _ hloot _ _ => quest_items_AddItem_ne_nil (.inr hloot)) hloot hout

theorem keeps_dropped {itemid : ℕ}
    (h : ∀ e o, Met references (fun _ => True) t groupId e o → e.needs_quest = false →
      e.itemid ≠ itemid) :
    Keeps references (fun loot => loot.dropped itemid = 0) t groupId := by
  intro loot e o hmet hloot rolled
  change Loot.dropped (loot.AddItem e) itemid = 0
  unfold Loot.AddItem
  split_ifs with hquest hroom hroom
  · exact hloot
  · exact hloot
  · simpa [Loot.dropped, List.countP_append, h e o hmet (Bool.eq_false_iff.mpr hquest)] using hloot
  · exact hloot

/-! ### Groups -/

theorem duplicate_empty (item : LootStoreItem) : LootGroup.duplicate w .empty item = false := by
  unfold LootGroup.duplicate
  cases w.template item.itemid with
  | none => rfl
  | some proto =>
    have hpos : 0 < dropLimit proto := by
      unfold dropLimit
      split_ifs <;> decide
    exact decide_eq_false (not_le.mpr hpos)

theorem eq_of_mem_quest_items_AddItem {item : LootStoreItem}
    (h : e ∈ (Loot.empty.AddItem item).quest_items) : e = item := by
  unfold Loot.AddItem at h
  split_ifs at h
  · exact List.mem_singleton.mp h
  · cases h
  · cases h
  · cases h

section Transfer

variable {item : LootStoreItem} {explicit equal : List LootStoreItem}

theorem rolledItem_transfer {goOn goOnWithout goOn' goOnWithout' : Draws Loot}
    (hdup : LootGroup.duplicate w loot e = false) (he : e ∈ loot'.quest_items)
    (hgoOn : goOn.Outcome loot' → goOn'.Outcome (loot.AddItem e))
    (h : (LootGroup.rolledItem w lootMode .empty item goOn goOnWithout).Outcome loot') :
    (LootGroup.rolledItem w lootMode loot item goOn' goOnWithout').Outcome (loot.AddItem e) := by
  unfold LootGroup.rolledItem at h ⊢
  by_cases hmode : item.lootmode &&& lootMode ≠ 0
  · rw [if_pos hmode, duplicate_empty] at h
    obtain rfl := h
    obtain rfl := eq_of_mem_quest_items_AddItem he
    rw [if_pos hmode, hdup]
    rfl
  · rw [if_neg hmode] at h ⊢
    exact hgoOn h

theorem rollEqual_transfer {goOn goOn' : List LootStoreItem → Draws Loot}
    (hdup : LootGroup.duplicate w loot e = false) (he : e ∈ loot'.quest_items)
    (hgoOn : ∀ equal, (goOn equal).Outcome loot' → (goOn' equal).Outcome (loot.AddItem e))
    (h : (LootGroup.rollEqual w lootMode .empty equal goOn).Outcome loot') :
    (LootGroup.rollEqual w lootMode loot equal goOn').Outcome (loot.AddItem e) := by
  unfold LootGroup.rollEqual at h ⊢
  split_ifs at h ⊢
  · exact hgoOn equal h
  · obtain ⟨i, hi, h⟩ := h
    refine ⟨i, hi, ?_⟩
    simp only [List.getElem?_eq_getElem hi] at h ⊢
    exact rolledItem_transfer hdup he (hgoOn equal) h

/-- **What attempts add to empty loot**, they may add to other loot where it has not dropped too
often: the entry is the first that is rolled and matches the mode. -/
theorem attempts_transfer (hdup : LootGroup.duplicate w loot e = false) (he : e ∈ loot'.quest_items)
    (left : ℕ) (h : (LootGroup.attempts w lootMode .empty left explicit equal).Outcome loot') :
    (LootGroup.attempts w lootMode loot left explicit equal).Outcome (loot.AddItem e) := by
  induction left generalizing explicit equal with
  | zero =>
    rw [LootGroup.attempts] at h
    obtain rfl := h
    cases he
  | succ left ih =>
    cases explicit with
    | nil =>
      rw [LootGroup.attempts] at h ⊢
      split_ifs at h ⊢
      · obtain rfl := h
        cases he
      · exact rollEqual_transfer hdup he (fun _ => ih) h
    | cons itr rest =>
      rw [LootGroup.attempts] at h ⊢
      obtain ⟨r, hpos, hlt, h⟩ := h
      refine ⟨r, hpos, hlt, ?_⟩
      cases hrolled : LootGroup.rollExplicit r (itr :: rest) with
      | nil =>
        simp only [hrolled] at h ⊢
        exact rollEqual_transfer hdup he (fun _ => ih) h
      | cons item rest' =>
        simp only [hrolled] at h ⊢
        exact rolledItem_transfer hdup he ih h

end Transfer

theorem exists_outcome_of_group
    (hadds : ∃ loot', (g.Process w lootMode .empty).Outcome loot' ∧ e ∈ loot'.quest_items)
    (hquest : e.needs_quest = true) (hloot : loot.dropped e.itemid = 0) :
    ∃ loot', (g.Process w lootMode loot).Outcome loot' ∧ loot'.quest_items ≠ [] := by
  obtain ⟨loot', hout, he⟩ := hadds
  have hdup : LootGroup.duplicate w loot e = false := by
    rw [duplicate_eq_false_iff]
    intro proto _
    rw [hloot]
    unfold dropLimit
    split_ifs <;> decide
  exact ⟨_, attempts_transfer hdup he _ hout, quest_items_AddItem_ne_nil (.inl hquest)⟩

/-! ### Entries -/

theorem isValid_chance (hvalid : e.IsValid w = true) (h : ¬(0 < e.group ∧ 0 < e.mincountOrRef)) :
    e.needs_quest = true ∨ e.chance ≠ 0 := by
  unfold LootStoreItem.IsValid at hvalid
  split_ifs at hvalid with hgroup hzero hitem
  · have hnone : e.group = 0 := by
      by_contra hne
      exact h ⟨Nat.pos_of_ne_zero hne, hitem⟩
    right
    intro hchance
    simp [hnone, hchance] at hvalid
  · simpa using hvalid

theorem chance_pos (ht : Loaded w t) (he : e ∈ t.Entries) : 0 < e.chance := by
  induction ht with
  | empty => cases he
  | add _ itemid chanceOrQuestChance lootmode group mincountOrRef maxcount hvalid ih =>
    rw [AddEntry] at he
    split_ifs at he with hgroup
    · exact ih he
    · rcases List.mem_append.mp he with he | he
      · exact ih he
      · obtain rfl := List.mem_singleton.mp he
        refine abs_pos.mpr ?_
        rintro rfl
        have hchance := isValid_chance hvalid hgroup
        simp [LootStoreItem.ofRow] at hchance

theorem outcome_roll (h : 0 < e.chance) :
    (e.Roll (unrated template) rate).Outcome true := by
  unfold LootStoreItem.Roll
  have hrated : ∀ q : ℚ, q = 1 → (true = decide (0 < e.chance * q)) := by
    rintro q rfl
    rw [mul_one]
    exact (decide_eq_true h).symm
  split_ifs with hcertain href hrate hrate
  · rfl
  · exact ⟨0, le_rfl, by norm_num, hrated _ rfl⟩
  · exact ⟨0, le_rfl, by norm_num, hrated _ rfl⟩
  · refine ⟨0, le_rfl, by norm_num, hrated _ ?_⟩
    split <;> rfl
  · refine ⟨0, le_rfl, by norm_num, hrated _ ?_⟩
    split <;> rfl

theorem outcome_processEntry
    {processReferenced : LootTemplate → ℕ → Loot → Draws Loot} (h : 0 < e.chance)
    (hout : (rolledEntry (unrated template) references processReferenced loot e).Outcome loot') :
    (processEntry (unrated template) references rate everyMode processReferenced loot e).Outcome
      loot' := by
  have hmode : e.lootmode &&& ~~~everyMode = 0 := by simp [everyMode]
  rw [processEntry_eq hmode]
  exact Draws.outcome_bind.mpr ⟨true, outcome_roll h, hout⟩

section

variable
  (hrank : ∀ id t, references id = some t → ∀ e ∈ t.Entries, e.mincountOrRef < 0 →
    rank e.ref < rank id)
include hrank

theorem ends_entry (hdepth : ∀ e ∈ t.Entries, e.mincountOrRef < 0 → rank e.ref < depth)
    (he : e ∈ t.Entries) :
    (processEntry w references rate lootMode
      (processReferenced w references rate lootMode depth) loot e).Ends := by
  apply ends_processEntry
  intro href t' ht' groupId loot
  have hlt := hdepth e he href
  cases depth with
  | zero => exact absurd hlt (Nat.not_lt_zero _)
  | succ depth =>
    apply ends_process hrank
    intro e' he' href'
    have hlower := hrank e.ref t' ht' e' he' href'
    omega

/-- **An entry of one's choice**: the turn of one entry may add a quest item, and the others keep
what it takes, and what it adds. -/
theorem exists_outcome_of_entry (hdepth : ∀ e ∈ t.Entries, e.mincountOrRef < 0 → rank e.ref < depth)
    (hP : Keeps references P t 0) (he : e ∈ t.Entries)
    (hturn : ∀ loot, P loot → ∃ loot', (processEntry w references rate lootMode
      (processReferenced w references rate lootMode depth) loot e).Outcome loot' ∧
      loot'.quest_items ≠ [])
    (hloot : P loot) :
    ∃ loot', (Process w references rate lootMode depth t 0 loot).Outcome loot' ∧
      loot'.quest_items ≠ [] := by
  obtain ⟨loot₁, hentries, hquest⟩ :=
    Draws.exists_outcome_foldl P (fun loot => loot.quest_items ≠ [])
    (fun _ _ he => ends_entry hrank hdepth he) (fun _ _ he _ hloot => hP.processEntry he hloot)
    (fun _ _ he _ hloot => keeps_quest_items.processEntry he hloot) he hturn hloot
  have hgroups : (Draws.foldl (fun loot g => LootGroup.Process w lootMode g loot) loot₁
      t.Groups).Ends := Draws.ends_foldl fun _ g _ => (LootGroup.adds_process g).ends
  obtain ⟨loot', hout⟩ := hgroups.exists_outcome
  refine ⟨loot', ?_, Draws.foldl_invariant (fun loot => loot.quest_items ≠ [])
    (fun _ _ _ _ hloot => keeps_group hloot) hquest hout⟩
  rw [process_eq, processWith, if_neg (not_not.mpr rfl)]
  exact Draws.outcome_bind.mpr ⟨loot₁, hentries, hout⟩

theorem exists_outcome_of_met (hloaded : ∀ id t, references id = some t → Loaded w t)
    (hmet : Met references (fun r => 0 < r.maxcount) t groupId e o) (hquest : QuestEntry e o)
    (hadds : ∀ g, o = some g → ∃ loot,
      (g.Process (unrated template) everyMode .empty).Outcome loot ∧ e ∈ loot.quest_items)
    (hP : o ≠ none → Keeps references (fun loot => loot.dropped e.itemid = 0) t groupId)
    (ht : Loaded w t) (hdepth : ∀ e ∈ t.Entries, e.mincountOrRef < 0 → rank e.ref < depth)
    (hloot : o ≠ none → loot.dropped e.itemid = 0) :
    ∃ loot', (Process (unrated template) references rate everyMode depth t groupId loot).Outcome
      loot' ∧ loot'.quest_items ≠ [] := by
  induction hmet generalizing depth loot with
  | @entry t e he =>
    apply exists_outcome_of_entry (P := fun _ => True) hrank hdepth (fun _ _ _ _ _ _ => trivial) he
      ?_ trivial
    intro loot _
    refine ⟨{ loot.AddItem e with rolled := loot.rolled ++ [⟨e, loot.items, loot.quest_items⟩] },
      outcome_processEntry (chance_pos ht he) ?_, quest_items_AddItem_ne_nil (.inl hquest.1)⟩
    rw [rolledEntry, if_neg (not_lt.mpr (hquest.2 rfl))]
    rfl
  | @grouped t g e hg he =>
    have hkeeps := hP (Option.some_ne_none g)
    rw [process_eq, processWith, if_neg (not_not.mpr rfl)]
    have hends :
        (Draws.foldl (LootTemplate.processEntry (unrated template) references rate everyMode
        (processReferenced (unrated template) references rate everyMode depth)) loot
        t.Entries).Ends :=
      Draws.ends_foldl fun loot e he => ends_entry hrank hdepth he
    obtain ⟨loot₁, hentries⟩ := hends.exists_outcome
    have hloot₁ : loot₁.dropped e.itemid = 0 :=
      Draws.foldl_invariant (fun loot => loot.dropped e.itemid = 0)
        (fun _ _ he _ hloot => hkeeps.processEntry he hloot) (hloot (Option.some_ne_none g))
        hentries
    obtain ⟨loot', hout, hadded⟩ := Draws.exists_outcome_foldl
      (fun loot => loot.dropped e.itemid = 0) (fun loot => loot.quest_items ≠ [])
      (fun _ g _ => (LootGroup.adds_process g).ends)
      (fun _ _ hg _ hloot => hkeeps.group hg hloot)
      (fun _ _ _ _ hloot => keeps_group hloot) hg
      (fun _ hloot => exists_outcome_of_group (hadds g rfl) hquest.1 hloot) hloot₁
    exact ⟨loot', Draws.outcome_bind.mpr ⟨loot₁, hentries, hout⟩, hadded⟩
  | @groupReference t groupId g e hid hg he =>
    rw [process_eq, processWith, if_pos hid, hg]
    exact exists_outcome_of_group (hadds g rfl) hquest.1 (hloot (Option.some_ne_none g))
  | @reference t r t' e o hr href hcount ht' h ih =>
    have hkeeps : Keeps references (fun loot => o ≠ none → loot.dropped e.itemid = 0) t 0 :=
      fun loot e' o' hmet hloot rolled ho => hP ho loot e' o' hmet (hloot ho) rolled
    apply exists_outcome_of_entry hrank hdepth hkeeps hr ?_ hloot
    intro loot hloot
    have hlt := hdepth r hr href
    cases depth with
    | zero => exact absurd hlt (Nat.not_lt_zero _)
    | succ depth =>
      have hdepth' : ∀ e' ∈ t'.Entries, e'.mincountOrRef < 0 → rank e'.ref < depth := by
        intro e' he' href'
        have hlower := hrank r.ref t' ht' e' he' href'
        omega
      have htimes : (r.maxcount * (unrated template).referencedAmountRate).floor.toNat =
          r.maxcount := by
        have hcast : (r.maxcount : ℚ) * (unrated template).referencedAmountRate =
            ((r.maxcount : ℤ) : ℚ) := by
          simp [unrated]
        rw [hcast, Rat.floor_intCast]
        exact Int.toNat_natCast _
      obtain ⟨loot', hout, hadded⟩ := Draws.exists_outcome_foldl
        (g := fun loot (_ : ℕ) =>
          Process (unrated template) references rate everyMode depth t' r.group loot)
        (fun loot => o ≠ none → loot.dropped e.itemid = 0) (fun loot => loot.quest_items ≠ [])
        (fun _ _ _ => ends_process hrank depth t' hdepth' _)
        (fun _ _ _ _ hloot => (hkeeps.reference hr href ht').process hloot)
        (fun _ _ _ _ hloot => keeps_quest_items.process hloot) (List.mem_range.mpr hcount)
        (fun _ hloot => ih hquest hadds (fun ho => (hP ho).reference hr href ht')
          (hloaded _ _ ht') hdepth' hloot) hloot
      refine ⟨loot', outcome_processEntry (chance_pos ht hr) ?_, hadded⟩
      rw [rolledEntry, if_pos href, ht']
      simp only [htimes]
      exact hout

end

end LootTemplate

/-! ## The search and processing -/

open LootTemplate

theorem dropped_empty (itemid : ℕ) : Loot.empty.dropped itemid = 0 := rfl

variable (template : ℕ → Option ItemTemplate) (store references : LootTemplateMap) (rate : Bool)

/-- A quest entry can come of processing. -/
def DropsQuest (depth loot_id : ℕ) : Prop :=
  ∃ t loot, store loot_id = some t ∧ loot.quest_items ≠ [] ∧
    (t.Process (unrated template) references rate everyMode depth 0 .empty).Outcome loot

/-- **The search finds what is included**, where it follows the references that processing follows;
what drops is included, and what is included and can drop, drops in some outcome. -/
theorem haveQuestLootFor_spec (hstore : ∀ id t, store id = some t → Loaded (unrated template) t)
    (hreferences : ∀ id t, references id = some t → Loaded (unrated template) t)
    (hacyclic : Acyclic references) (loot_id : ℕ)
    (halike : ∀ t, store loot_id = some t → Alike store references t 0) :
    ∃ n, ∀ depth ≥ n, ∃ found, HaveQuestLootFor store depth loot_id = some found ∧
      (found = true ↔ ∃ t, store loot_id = some t ∧ Includes references t 0) ∧
      (∀ t, store loot_id = some t →
        (t.Process (unrated template) references rate everyMode depth 0 .empty).Ends) ∧
      (DropsQuest template store references rate depth loot_id → found = true) ∧
      ∀ t, store loot_id = some t → CanDrop (unrated template) references t 0 →
        DropsQuest template store references rate depth loot_id := by
  obtain ⟨n, rank, hlt, hrank⟩ := hacyclic
  refine ⟨n, fun depth hdepth => ?_⟩
  have hdepth : ∀ e : LootStoreItem, rank e.ref < depth := fun e => (hlt e.ref).trans_le hdepth
  cases ht : store loot_id with
  | none =>
    refine ⟨false, by rw [HaveQuestLootFor, ht], ?_, ?_, ?_, ?_⟩
    · simp
    · intro t hsome
      cases hsome
    · rintro ⟨t, loot, hsome, -⟩
      rw [ht] at hsome
      cases hsome
    · intro t hsome
      cases hsome
  | some t =>
    obtain ⟨found, hfound, hincludes⟩ := hasQuestDrop_spec hrank depth (fun e _ _ => hdepth e)
      (halike t ht)
    refine ⟨found, by rw [HaveQuestLootFor, ht]; exact hfound, ?_, ?_, ?_, ?_⟩
    · rw [hincludes]
      exact ⟨fun h => ⟨t, rfl, h⟩, fun ⟨_, hsome, h⟩ => Option.some.inj hsome ▸ h⟩
    · intro t' _
      exact ends_process hrank depth t' (fun e _ _ => hdepth e) 0
    · rintro ⟨t', loot, hsome, hquest, hout⟩
      cases ht.symm.trans hsome
      exact hincludes.mpr (includes_of_outcome hout hquest)
    · rintro t' hsome ⟨e, o, hmet, hquest, hgrouped⟩
      cases hsome
      have hkeeps : o ≠ none → Keeps references (fun loot => loot.dropped e.itemid = 0) t 0 := by
        intro ho
        obtain ⟨g, rfl⟩ := Option.ne_none_iff_exists'.mp ho
        exact keeps_dropped (hgrouped g rfl).2
      obtain ⟨loot, hout, hadded⟩ := exists_outcome_of_met hrank hreferences hmet hquest
        (fun g ho => (hgrouped g ho).1) hkeeps (hstore _ _ ht) (fun e _ _ => hdepth e)
        (fun _ => dropped_empty e.itemid)
      exact ⟨t, loot, ht, hadded, hout⟩

/-- A group: an item that drops for certain, and after it one for quests. -/
def shadowed : LootTemplate :=
  (LootTemplate.AddEntry ⟨[], []⟩ (.ofRow 25 100 1 1 1 1)).AddEntry (.ofRow 752 (-50) 1 1 1 1)

/-- The store that holds it. -/
def shadowedStore : LootTemplateMap := fun id => if id = 1 then some shadowed else none

/-- A world of swords. -/
def swordTemplate : ℕ → Option ItemTemplate := fun _ => some ⟨13, 1⟩

theorem loaded_shadowedStore (id : ℕ) (t : LootTemplate) (h : shadowedStore id = some t) :
    Loaded (unrated swordTemplate) t := by
  unfold shadowedStore at h
  split_ifs at h
  cases h
  exact .add (.add .empty _ _ _ _ _ _ (by decide +kernel)) _ _ _ _ _ _ (by decide +kernel)

theorem acyclic_none : Acyclic fun _ => none :=
  ⟨1, fun _ => 0, fun _ => Nat.one_pos, fun _ _ h => by cases h⟩

theorem haveQuestLootFor_spec_shadowed :
    ∃ n, ∀ depth ≥ n, ∃ found, HaveQuestLootFor shadowedStore depth 1 = some found ∧
      (found = true ↔ ∃ t, shadowedStore 1 = some t ∧ Includes (fun _ => none) t 0) ∧
      (∀ t, shadowedStore 1 = some t →
        (t.Process (unrated swordTemplate) (fun _ => none) true everyMode depth 0 .empty).Ends) ∧
      (DropsQuest swordTemplate shadowedStore (fun _ => none) true depth 1 → found = true) ∧
      ∀ t, shadowedStore 1 = some t → CanDrop (unrated swordTemplate) (fun _ => none) t 0 →
        DropsQuest swordTemplate shadowedStore (fun _ => none) true depth 1 := by
  refine haveQuestLootFor_spec swordTemplate shadowedStore (fun _ => none) true loaded_shadowedStore
    (fun _ _ h => by cases h) acyclic_none 1 ?_
  intro t ht e hmet href
  cases ht
  cases hmet with
  | entry he => cases he
  | reference hr => cases hr

/-- **The quest item is found, and never drops.** -/
theorem shadowed_never_drops : ¬∀ (template : ℕ → Option ItemTemplate)
    (store references : LootTemplateMap) (rate : Bool),
    (∀ id t, store id = some t → Loaded (unrated template) t) →
    (∀ id t, references id = some t → Loaded (unrated template) t) → Acyclic references →
    ∀ loot_id, ∃ n, ∀ depth ≥ n, HaveQuestLootFor store depth loot_id = some true ↔
      DropsQuest template store references rate depth loot_id := by
  intro h
  obtain ⟨n, hn⟩ := h swordTemplate shadowedStore (fun _ => none) true loaded_shadowedStore
    (fun _ _ h => by cases h) acyclic_none 1
  have hshadowed : shadowed = ⟨[], [⟨[.ofRow 25 100 1 1 1 1, .ofRow 752 (-50) 1 1 1 1], []⟩]⟩ := by
    simp [shadowed, LootTemplate.AddEntry, LootStoreItem.ofRow, LootGroup.AddEntry]
  have hfound : HaveQuestLootFor shadowedStore n 1 = some true := by
    change HasQuestDrop shadowedStore n shadowed 0 = some true
    rw [hshadowed]
    cases n <;> rfl
  obtain ⟨t, loot, ht, hquest, hout⟩ := (hn n le_rfl).mp hfound
  cases ht
  rw [process_eq, hshadowed] at hout
  obtain ⟨_, rfl, hout⟩ := Draws.outcome_bind.mp hout
  obtain ⟨_, hgroup, rfl⟩ := Draws.outcome_bind.mp hout
  obtain ⟨r, -, -, hgroup⟩ := hgroup
  -- the item before it is certain: whatever is drawn, the roll stops there
  have hroll : LootGroup.rollExplicit r [.ofRow 25 100 1 1 1 1, .ofRow 752 (-50) 1 1 1 1] =
      [.ofRow 25 100 1 1 1 1, .ofRow 752 (-50) 1 1 1 1] := if_pos (by decide +kernel)
  simp only [hroll, LootGroup.rolledItem, duplicate_empty] at hgroup
  rw [if_pos (by decide)] at hgroup
  obtain rfl := hgroup
  exact hquest (quest_items_AddItem_of_not (by decide +kernel))

end TeraCore.LootTemplates
