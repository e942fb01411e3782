import TeraCore.Looting.GroupRolls

/-!
# Loot templates: how often an item drops

An item that is not equippable is to drop three times at most, and an equippable one once.  Groups
see to that.  The loop over plain entries does not: the `continue`s that are to skip an entry at its
limit are those of the loop that counts, which goes on to its end, where nothing is left to skip.
The loop asks of an entry's mode that it is part of the mode asked for, and mode 0 is part of every
mode.

## Main results

* `process_invariant`: what the addition of each entry keeps, processing a template keeps
* `limited_AddItem`: what an addition does to the limits
* `limited_iff`: the limits are kept, exactly if each plain entry that was added kept them
-/

namespace TeraCore.LootTemplates

open Commons

variable {w : World} {references : LootTemplateMap} {rate : Bool} {lootMode : BitVec 16}
  {loot loot' : Loot} {e : LootStoreItem}

namespace LootTemplate

/-- **References come to an end**: each leads to a template of a lower rank. -/
def Acyclic (references : LootTemplateMap) : Prop :=
  ∃ (n : ℕ) (rank : ℕ → ℕ), (∀ id, rank id < n) ∧ ∀ id t, references id = some t →
    ∀ e ∈ t.Entries, e.mincountOrRef < 0 → rank e.ref < rank id

/-! ## Entries -/

/-- **The search for an item's drops does not stop** before the end. -/
theorem searchDropped_eq_nil (proto : ItemTemplate) (itemid counter : ℕ)
    (items : List LootStoreItem) : searchDropped proto itemid counter items = [] := by
  induction items generalizing counter with
  | nil => rfl
  | cons item rest ih =>
    rw [searchDropped]
    split_ifs
    · exact ih _
    · exact ih _
    · exact ih _
    · exact ih _

theorem limitReached_eq_false : limitReached w loot e = false := by
  unfold limitReached
  cases w.template e.itemid with
  | none => rfl
  | some proto => simp [searchDropped_eq_nil]

variable {processReferenced : LootTemplate → ℕ → Loot → Draws Loot}

theorem processEntry_eq (hmode : e.lootmode &&& ~~~lootMode = 0) :
    processEntry w references rate lootMode processReferenced loot e =
      (e.Roll w rate).bind fun hit =>
        if hit then rolledEntry w references processReferenced loot e else .done loot := by
  rw [processEntry, if_neg (not_not.mpr hmode), limitReached_eq_false]
  congr 1
  funext hit
  cases hit <;> rfl

theorem ends_roll : (e.Roll w rate).Ends := by
  unfold LootStoreItem.Roll
  by_cases hcertain : 100 ≤ e.chance
  · rw [if_pos hcertain]
    trivial
  · rw [if_neg hcertain]
    by_cases href : e.mincountOrRef < 0
    · rw [if_pos href]
      exact fun _ _ _ => trivial
    · rw [if_neg href]
      exact fun _ _ _ => trivial

/-! ## Processing ends -/

theorem ends_processEntry (h : e.mincountOrRef < 0 → ∀ r, references e.ref = some r →
      ∀ groupId loot, (processReferenced r groupId loot).Ends) :
    (processEntry w references rate lootMode processReferenced loot e).Ends := by
  by_cases hmode : e.lootmode &&& ~~~lootMode = 0
  · rw [processEntry_eq hmode]
    refine ends_roll.bind fun hit _ => ?_
    cases hit with
    | false => trivial
    | true =>
      rw [if_pos rfl, rolledEntry]
      split_ifs with href
      · split
        · trivial
        · rename_i r hr
          exact Draws.ends_foldl fun loot _ _ => h href r hr e.group loot
      · trivial
  · rw [processEntry, if_pos hmode]
    trivial

theorem ends_processWith {t : LootTemplate}
    (h : ∀ e ∈ t.Entries, e.mincountOrRef < 0 → ∀ r, references e.ref = some r →
      ∀ groupId loot, (processReferenced r groupId loot).Ends) (groupId : ℕ) :
    (processWith w references rate lootMode processReferenced t groupId loot).Ends := by
  unfold processWith
  split_ifs
  · split
    · trivial
    · exact (LootGroup.adds_process _).ends
  · refine (Draws.ends_foldl fun loot e he => ends_processEntry (h e he)).bind fun loot _ => ?_
    exact Draws.ends_foldl fun loot g _ => (LootGroup.adds_process g).ends

theorem ends_process {rank : ℕ → ℕ} (hrank : ∀ id t, references id = some t →
    ∀ e ∈ t.Entries, e.mincountOrRef < 0 → rank e.ref < rank id) (depth : ℕ) (t : LootTemplate)
    (ht : ∀ e ∈ t.Entries, e.mincountOrRef < 0 → rank e.ref < depth) (groupId : ℕ) :
    (Process w references rate lootMode depth t groupId loot).Ends := by
  induction depth generalizing t groupId loot with
  | zero => exact ends_processWith (fun e he href => absurd (ht e he href) (Nat.not_lt_zero _)) _
  | succ depth ih =>
    refine ends_processWith (fun e he href r hr groupId loot => ?_) _
    have hlt := ht e he href
    exact ih r (fun e' he' href' => by have := hrank e.ref r hr e' he' href'; omega) groupId

/-! ## What is kept -/

/-- **What processing a template meets**: an entry, and the group that it is in, if it is in one.
References lead on to what the template that they refer to meets, if they are followed. -/
inductive Met (references : LootTemplateMap) (follows : LootStoreItem → Prop) :
    LootTemplate → ℕ → LootStoreItem → Option LootGroup → Prop
  | entry {t e} (he : e ∈ t.Entries) : Met references follows t 0 e none
  | grouped {t g e} (hg : g ∈ t.Groups) (he : e ∈ g.entries) : Met references follows t 0 e (some g)
  | groupReference {t groupId g e} (hid : groupId ≠ 0) (hg : t.Groups[groupId - 1]? = some g)
    (he : e ∈ g.entries) : Met references follows t groupId e (some g)
  | reference {t r t' e o} (hr : r ∈ t.Entries) (href : r.mincountOrRef < 0) (hfollows : follows r)
    (ht' : references r.ref = some t') (h : Met references follows t' r.group e o) :
    Met references follows t 0 e o

variable {P : Loot → Prop} {t : LootTemplate} {groupId : ℕ}

theorem process_group_invariant {g : LootGroup}
    (hgrouped : ∀ loot, ∀ e ∈ g.entries, P loot → e.lootmode &&& lootMode ≠ 0 →
      LootGroup.duplicate w loot e = false → P (loot.AddItem e))
    (hloot : P loot) (h : (g.Process w lootMode loot).Outcome loot') : P loot' := by
  rcases (LootGroup.adds_process g).outcome loot' h with rfl | ⟨e, he, hmode, hdup, rfl⟩
  · exact hloot
  · exact hgrouped loot e he hloot hmode hdup

theorem processEntry_invariant
    (hplain : ∀ loot, P loot → 0 ≤ e.mincountOrRef → e.lootmode &&& ~~~lootMode = 0 →
      P { loot.AddItem e with rolled := loot.rolled ++ [⟨e, loot.items, loot.quest_items⟩] })
    (hreferenced : ∀ r, e.mincountOrRef < 0 → references e.ref = some r → ∀ loot loot', P loot →
      (processReferenced r e.group loot).Outcome loot' → P loot')
    (hloot : P loot)
    (h : (processEntry w references rate lootMode processReferenced loot e).Outcome loot') :
    P loot' := by
  by_cases hmode : e.lootmode &&& ~~~lootMode = 0
  · rw [processEntry_eq hmode] at h
    obtain ⟨hit, -, h⟩ := Draws.outcome_bind.mp h
    cases hit with
    | false =>
      obtain rfl := h
      exact hloot
    | true =>
      rw [if_pos rfl, rolledEntry] at h
      split_ifs at h with href
      · split at h
        · obtain rfl := h
          exact hloot
        · rename_i r hr
          exact Draws.foldl_invariant P
            (fun loot _ _ loot' => hreferenced r href hr loot loot') hloot h
      · obtain rfl := h
        exact hplain loot hloot (not_lt.mp href) hmode
  · rw [processEntry, if_pos hmode] at h
    obtain rfl := h
    exact hloot

/-- **What the addition of each entry keeps** that is met, processing a template keeps. -/
theorem processWith_invariant
    (hgrouped : ∀ loot e g, Met references (fun _ => True) t groupId e (some g) → P loot →
      e.lootmode &&& lootMode ≠ 0 → LootGroup.duplicate w loot e = false → P (loot.AddItem e))
    (hplain : ∀ loot e, Met references (fun _ => True) t groupId e none → P loot →
      0 ≤ e.mincountOrRef → e.lootmode &&& ~~~lootMode = 0 →
      P { loot.AddItem e with rolled := loot.rolled ++ [⟨e, loot.items, loot.quest_items⟩] })
    (hreferenced : groupId = 0 → ∀ e ∈ t.Entries, e.mincountOrRef < 0 → ∀ r,
      references e.ref = some r → ∀ loot loot', P loot →
      (processReferenced r e.group loot).Outcome loot' → P loot')
    (hloot : P loot)
    (h : (processWith w references rate lootMode processReferenced t groupId loot).Outcome loot') :
    P loot' := by
  unfold processWith at h
  split_ifs at h with hid
  · split at h
    · obtain rfl := h
      exact hloot
    · rename_i g hg
      exact process_group_invariant
        (fun loot e he => hgrouped loot e g (.groupReference hid hg he)) hloot h
  · obtain rfl := not_not.mp hid
    obtain ⟨loot₁, hentries, hgroups⟩ := Draws.outcome_bind.mp h
    refine Draws.foldl_invariant P (fun loot g hg loot' hloot h => ?_) ?_ hgroups
    · exact process_group_invariant (fun loot e he => hgrouped loot e g (.grouped hg he)) hloot h
    · refine Draws.foldl_invariant P (fun loot e he loot' hloot h => ?_) hloot hentries
      exact processEntry_invariant (fun loot => hplain loot e (.entry he))
        (fun r href hr => hreferenced rfl e he href r hr) hloot h

theorem process_invariant (depth : ℕ)
    (hgrouped : ∀ loot e g, Met references (fun _ => True) t groupId e (some g) → P loot →
      e.lootmode &&& lootMode ≠ 0 → LootGroup.duplicate w loot e = false → P (loot.AddItem e))
    (hplain : ∀ loot e, Met references (fun _ => True) t groupId e none → P loot →
      0 ≤ e.mincountOrRef → e.lootmode &&& ~~~lootMode = 0 →
      P { loot.AddItem e with rolled := loot.rolled ++ [⟨e, loot.items, loot.quest_items⟩] })
    (hloot : P loot)
    (h : (Process w references rate lootMode depth t groupId loot).Outcome loot') : P loot' := by
  induction depth generalizing t groupId loot loot' with
  | zero =>
    refine processWith_invariant hgrouped hplain ?_ hloot h
    exact fun _ _ _ _ _ _ _ _ _ h => False.elim h
  | succ depth ih =>
    refine processWith_invariant hgrouped hplain ?_ hloot h
    intro hid e he href r hr loot loot' hkept hout
    subst hid
    exact ih (fun loot e' g h => hgrouped loot e' g (.reference he href trivial hr h))
      (fun loot e' h => hplain loot e' (.reference he href trivial hr h)) hkept hout

end LootTemplate

/-! ## The limits -/

/-- **The limits**: there is room for the items, each drops as often as it may, and each entry that
was added matches the mode. -/
structure Loot.Limited (w : World) (lootMode : BitVec 16) (loot : Loot) : Prop where
  length : loot.items.length ≤ MAX_NR_LOOT_ITEMS
  dropped : ∀ itemid proto, w.template itemid = some proto →
    loot.dropped itemid ≤ dropLimit proto
  mode : ∀ e ∈ loot.items ++ loot.quest_items, e.lootmode &&& lootMode ≠ 0

/-- **A plain entry kept the limits** when it was added: if there was room for it, it was of some
mode, and an item that does not belong to a quest had not dropped as often as it may. -/
def Rolled.Kept (w : World) (turn : Rolled) : Prop :=
  Loot.HasRoom ⟨turn.items, turn.quest_items, []⟩ turn.entry →
    turn.entry.lootmode ≠ 0 ∧ (turn.entry.needs_quest = false →
      LootGroup.duplicate w ⟨turn.items, turn.quest_items, []⟩ turn.entry = false)

theorem duplicate_eq_false_iff : LootGroup.duplicate w loot e = false ↔
    ∀ proto, w.template e.itemid = some proto → loot.dropped e.itemid < dropLimit proto := by
  unfold LootGroup.duplicate
  cases w.template e.itemid with
  | none => simp
  | some proto => simp

theorem limited_AddItem : (loot.AddItem e).Limited w lootMode ↔ loot.Limited w lootMode ∧
    (loot.HasRoom e → e.lootmode &&& lootMode ≠ 0 ∧
      (e.needs_quest = false → LootGroup.duplicate w loot e = false)) := by
  rw [duplicate_eq_false_iff, Loot.HasRoom, Loot.AddItem]
  cases hquest : e.needs_quest with
  | true =>
    simp only [if_true]
    split_ifs with hroom
    · constructor
      · intro h
        refine ⟨⟨h.length, h.dropped, fun e' he' => h.mode e' ?_⟩, fun _ => ⟨h.mode e ?_, ?_⟩⟩
        · rw [← List.append_assoc]
          exact List.mem_append_left _ he'
        · simp
        · simp
      · rintro ⟨h, hmode⟩
        refine ⟨h.length, h.dropped, fun e' he' => ?_⟩
        rw [← List.append_assoc] at he'
        rcases List.mem_append.mp he' with he' | he'
        · exact h.mode e' he'
        · rw [List.mem_singleton.mp he']
          exact (hmode hroom).1
    · exact ⟨fun h => ⟨h, fun hroom' => absurd hroom' hroom⟩, And.left⟩
  | false =>
    simp only [Bool.false_eq_true, if_false]
    split_ifs with hroom
    · have hcount : ∀ itemid, Loot.dropped { loot with items := loot.items ++ [e] } itemid =
          loot.dropped itemid + if e.itemid = itemid then 1 else 0 := by
        intro itemid
        simp only [Loot.dropped, List.countP_append, List.countP_singleton, beq_iff_eq]
      constructor
      · intro h
        have hle : ∀ itemid proto, w.template itemid = some proto →
            loot.dropped itemid + (if e.itemid = itemid then 1 else 0) ≤ dropLimit proto :=
          fun itemid proto hproto => hcount itemid ▸ h.dropped itemid proto hproto
        refine ⟨⟨Nat.le_of_lt hroom, fun itemid proto hproto => ?_, fun e' he' => h.mode e' ?_⟩,
          fun _ => ⟨h.mode e (by simp), fun _ proto hproto => ?_⟩⟩
        · exact (Nat.le_add_right _ _).trans (hle itemid proto hproto)
        · rcases List.mem_append.mp he' with he' | he'
          · exact List.mem_append_left _ (List.mem_append_left _ he')
          · exact List.mem_append_right _ he'
        · have hlt := hle e.itemid proto hproto
          rw [if_pos rfl] at hlt
          exact hlt
      · rintro ⟨h, hadded⟩
        obtain ⟨hmode, hdropped⟩ := hadded hroom
        refine ⟨?_, fun itemid proto hproto => ?_, fun e' he' => ?_⟩
        · rw [List.length_append, List.length_singleton]
          exact hroom
        · rw [hcount]
          split_ifs with heq
          · subst heq
            exact hdropped trivial proto hproto
          · exact h.dropped itemid proto hproto
        · simp only [List.mem_append, List.mem_singleton] at he'
          rcases he' with (he' | rfl) | he'
          · exact h.mode e' (List.mem_append_left _ he')
          · exact hmode
          · exact h.mode e' (List.mem_append_right _ he')
    · exact ⟨fun h => ⟨h, fun hroom' => absurd hroom' hroom⟩, And.left⟩

/-- The limits are kept so far, exactly if each plain entry kept them. -/
def Loot.Sound (w : World) (lootMode : BitVec 16) (loot : Loot) : Prop :=
  loot.Limited w lootMode ↔ ∀ turn ∈ loot.rolled, turn.Kept w

/-- **A group** keeps the limits. -/
theorem sound_grouped (hloot : loot.Sound w lootMode) (hmode : e.lootmode &&& lootMode ≠ 0)
    (hdup : LootGroup.duplicate w loot e = false) : (loot.AddItem e).Sound w lootMode := by
  have hrolled : (loot.AddItem e).rolled = loot.rolled := by
    unfold Loot.AddItem
    split_ifs <;> rfl
  rw [Loot.Sound] at hloot
  rw [Loot.Sound, limited_AddItem, hrolled, ← hloot]
  exact and_iff_left fun _ => ⟨hmode, fun _ => hdup⟩

/-- A mode that is part of another one has a bit in common with it, unless it is none at all. -/
theorem and_ne_zero_iff {a b : BitVec 16} (h : a &&& ~~~b = 0) : a &&& b ≠ 0 ↔ a ≠ 0 := by
  have hsame : a &&& b = a := by
    calc a &&& b = (a &&& b) ||| (a &&& ~~~b) := by
          rw [h]
          exact BitVec.or_zero.symm
      _ = a := by rw [← BitVec.and_or_distrib_left, BitVec.or_not_self, BitVec.and_allOnes]
  rw [hsame]

/-- **A plain entry** keeps the limits, exactly if it was below them. -/
theorem sound_plain (hloot : loot.Sound w lootMode) (hmode : e.lootmode &&& ~~~lootMode = 0) :
    Loot.Sound w lootMode { loot.AddItem e with
      rolled := loot.rolled ++ [⟨e, loot.items, loot.quest_items⟩] } := by
  have hlimited : Loot.Limited w lootMode { loot.AddItem e with
      rolled := loot.rolled ++ [⟨e, loot.items, loot.quest_items⟩] } ↔
      (loot.AddItem e).Limited w lootMode :=
    ⟨fun h => ⟨h.length, h.dropped, h.mode⟩, fun h => ⟨h.length, h.dropped, h.mode⟩⟩
  have hkept : Rolled.Kept w ⟨e, loot.items, loot.quest_items⟩ ↔
      (loot.HasRoom e → e.lootmode &&& lootMode ≠ 0 ∧
        (e.needs_quest = false → LootGroup.duplicate w loot e = false)) := by
    rw [and_ne_zero_iff hmode]
    exact Iff.rfl
  rw [Loot.Sound] at hloot
  rw [Loot.Sound, hlimited, limited_AddItem, hloot, ← hkept, List.forall_mem_append,
    List.forall_mem_singleton]

theorem length_AddItem (h : loot.items.length ≤ MAX_NR_LOOT_ITEMS) :
    (loot.AddItem e).items.length ≤ MAX_NR_LOOT_ITEMS := by
  unfold Loot.AddItem
  split_ifs with hquest hroom hroom
  · exact h
  · exact h
  · rw [List.length_append, List.length_singleton]
    exact hroom
  · exact h

/-- **The limits are kept**, exactly if each plain entry that was added kept them, in every outcome;
and the items are never too many, whatever was added. -/
theorem limited_iff (w : World) (references : LootTemplateMap) (rate : Bool) (lootMode : BitVec 16)
    (hacyclic : LootTemplate.Acyclic references) (t : LootTemplate) :
    (∃ n, ∀ depth ≥ n, (t.Process w references rate lootMode depth 0 .empty).Ends) ∧
      ∀ depth loot, (t.Process w references rate lootMode depth 0 .empty).Outcome loot →
        loot.items.length ≤ MAX_NR_LOOT_ITEMS ∧
          (loot.Limited w lootMode ↔ ∀ turn ∈ loot.rolled, turn.Kept w) := by
  refine ⟨?_, fun depth loot h => ?_⟩
  · obtain ⟨n, rank, hlt, hrank⟩ := hacyclic
    refine ⟨n, fun depth hdepth => LootTemplate.ends_process hrank depth t (fun e _ _ => ?_) 0⟩
    exact (hlt e.ref).trans_le hdepth
  · have hempty : Loot.Limited w lootMode .empty :=
      ⟨Nat.zero_le _, fun _ _ _ => Nat.zero_le _, fun e he => by cases he⟩
    have hsound : loot.items.length ≤ MAX_NR_LOOT_ITEMS ∧ loot.Sound w lootMode := by
      refine LootTemplate.process_invariant
        (P := fun loot => loot.items.length ≤ MAX_NR_LOOT_ITEMS ∧ loot.Sound w lootMode) depth ?_ ?_
        ⟨Nat.zero_le _, (fun _ turn hturn => by cases hturn), fun _ => hempty⟩ h
      · intro loot e _ _ hloot hmode hdup
        exact ⟨length_AddItem hloot.1, sound_grouped hloot.2 hmode hdup⟩
      · intro loot e _ hloot _ hmode
        exact ⟨length_AddItem hloot.1, sound_plain hloot.2 hmode⟩
    exact hsound

/-- An equippable item, 25, twice from a template that is referred to. -/
def twice : LootTemplate := ⟨[⟨25, 100, -1, 1, 0, false, 2⟩], []⟩

/-- The template that is referred to. -/
def swords : LootTemplateMap := fun id =>
  if id = 1 then some ⟨[⟨25, 100, 1, 1, 0, false, 1⟩], []⟩ else none

/-- A world in which all items are equippable. -/
def equippable : World := ⟨fun _ => some ⟨13, 1⟩, fun _ => 1, 1, 1⟩

theorem acyclic_swords : LootTemplate.Acyclic swords := by
  refine ⟨1, fun _ => 0, fun _ => Nat.one_pos, fun id t ht e he href => ?_⟩
  unfold swords at ht
  split_ifs at ht
  cases ht
  obtain rfl := List.mem_singleton.mp he
  exact absurd href (by decide)

theorem limited_iff_swords :
    (∃ n, ∀ depth ≥ n, (twice.Process equippable swords true 1 depth 0 .empty).Ends) ∧
      ∀ depth loot, (twice.Process equippable swords true 1 depth 0 .empty).Outcome loot →
        loot.items.length ≤ MAX_NR_LOOT_ITEMS ∧
          (loot.Limited equippable 1 ↔ ∀ turn ∈ loot.rolled, turn.Kept equippable) :=
  limited_iff equippable swords true 1 acyclic_swords twice

/-- **The sword drops twice.** -/
theorem sword_twice : ¬∀ (w : World) (references : LootTemplateMap) (rate : Bool)
    (lootMode : BitVec 16), LootTemplate.Acyclic references →
    ∀ (t : LootTemplate) (depth : ℕ) (loot : Loot),
      (t.Process w references rate lootMode depth 0 .empty).Outcome loot →
        loot.Limited w lootMode := by
  intro h
  have htwice : (twice.Process equippable swords true 1 1 0 .empty).result.map
      (·.dropped 25) = some 2 := by
    decide +kernel
  obtain ⟨loot, hloot, htwice⟩ := Option.map_eq_some_iff.mp htwice
  have hlimited := h equippable swords true 1 acyclic_swords twice 1 loot
    (Draws.outcome_of_result hloot)
  have hle : 2 ≤ 1 := htwice ▸ hlimited.dropped 25 ⟨13, 1⟩ rfl
  exact absurd hle (by decide)

end TeraCore.LootTemplates
