import TeraCore.Looting.Filling

/-!
# The loops that fill loot

One turn of a loop puts at most one item on the list of the player.  The list is kept in its map
only when the loop is over, so what a turn does is stated about the loot with the list kept.

## Main results

* `turning_questTurn`, `turning_ffaTurn`, `turning_conditionalTurn`: a turn of each filling
* `filling_FillNotNormalLootFor`: the filling for one player
* `filling_FillLoot`: loot that was filled
-/

namespace TeraCore.Looting

open Commons

namespace Loot

variable (l : Loot)

/-! ## Lists that are kept -/

section keepList

variable (kind : Kind) (p : ℕ) (ql : List QuestItem)

@[simp] theorem item?_keepList : (l.keepList kind p ql).item? = l.item? := by
  unfold keepList
  split <;> simp

@[simp] theorem flag_keepList (f : LootItem → Bool) : (l.keepList kind p ql).flag f = l.flag f := by
  funext quest i
  simp only [flag, item?_keepList]

@[simp] theorem core_keepList : (l.keepList kind p ql).core = l.core := by
  funext quest i
  simp only [core, item?_keepList]

@[simp] theorem offered_keepList : (l.keepList kind p ql).offered = l.offered := by
  unfold keepList
  split <;> simp

@[simp] theorem granted_keepList : (l.keepList kind p ql).granted = l.granted := by
  unfold keepList
  split <;> simp

@[simp] theorem unlootedCount_keepList :
    (l.keepList kind p ql).unlootedCount = l.unlootedCount := by
  unfold keepList
  split <;> simp

theorem find?_keepList_of_ne {kind' : Kind} {p' : ℕ} (h : ¬(kind' = kind ∧ p' = p)) :
    ((l.keepList kind p ql).lists kind').find? p' = (l.lists kind').find? p' := by
  unfold keepList
  split
  · rfl
  · rw [find?_setList, if_neg h]

variable {l kind p}

theorem entryAt_keepList (h : (l.lists kind).find? p = none) (kind' : Kind) (p' j : ℕ) :
    (l.keepList kind p ql).entryAt kind' p' j =
      if kind' = kind ∧ p' = p then ql[j]? else l.entryAt kind' p' j := by
  unfold keepList
  cases ql with
  | nil =>
    simp only [List.isEmpty_nil, if_true, List.getElem?_nil]
    by_cases hsame : kind' = kind ∧ p' = p
    · obtain ⟨rfl, rfl⟩ := hsame
      simp [entryAt, h]
    · rw [if_neg hsame]
  | cons e ql => simp [entryAt_setList]

end keepList

/-! ## Items that are offered -/

section offer

variable (quest : Bool) (i : ℕ) (item : LootItem) (p : ℕ) (counts blocks marks : Bool)

@[simp] theorem lists_offer : (l.offer quest i item p counts blocks marks).lists = l.lists := by
  funext kind
  exact Eq.trans (by cases kind <;> rfl) (lists_modifyItem l quest i _ kind)

@[simp] theorem entryAt_offer :
    (l.offer quest i item p counts blocks marks).entryAt = l.entryAt := by
  funext kind p j
  simp only [entryAt, lists_offer]

@[simp] theorem granted_offer :
    (l.offer quest i item p counts blocks marks).granted = l.granted :=
  granted_modifyItem l quest i _

theorem flag_offer (f : LootItem → Bool) (quest' : Bool) (i' : ℕ) :
    (l.offer quest i item p counts blocks marks).flag f quest' i' =
      if quest' = quest ∧ i' = i then
        l.flag (fun item => f { item with
          is_blocked := item.is_blocked || blocks
          is_counted := item.is_counted || marks }) quest' i'
      else l.flag f quest' i' :=
  flag_modifyItem l quest i _ f quest' i'

theorem flag_offer_of {f : LootItem → Bool} (hf : ∀ item blocked counted,
    f { item with is_blocked := blocked, is_counted := counted } = f item) :
    (l.offer quest i item p counts blocks marks).flag f = l.flag f :=
  flag_modifyItem_of l quest i _ fun item => hf item _ _

@[simp] theorem core_offer : (l.offer quest i item p counts blocks marks).core = l.core :=
  core_modifyItem l quest i _ fun _ => rfl

end offer

variable {l} {kind : Kind} {p i : ℕ} {item : LootItem} {ql : List QuestItem}

theorem putsOn_offer (ql : List QuestItem) (hnone : (l.lists kind).find? p = none)
    (hitem : l.item? kind.isQuest i = some item) (counts blocks marks : Bool) :
    (l.keepList kind p ql).PutsOn
      ((l.offer kind.isQuest i item p counts blocks marks).keepList kind p (ql ++ [⟨i, false⟩]))
      kind p i ql.length := by
  have hnone' : ((l.offer kind.isQuest i item p counts blocks marks).lists kind).find? p =
      none := by
    rw [lists_offer]
    exact hnone
  have hold := entryAt_keepList ql hnone
  have hnew := entryAt_keepList (ql ++ [⟨i, false⟩]) hnone'
  refine ⟨by simp, ?_, ?_, by simp, fun kind' p' j q hq => ?_, fun kind' p' j q hq => ?_, ?_⟩
  · rw [flag_keepList, flag_keepList]
    exact flag_offer_of l _ i item p counts blocks marks fun _ _ _ => rfl
  · rw [offered_keepList, offered_keepList]
    refine Eq.trans (congrArg₂ insert (pickUp_eq hitem p) rfl) ?_
    rw [pick_of_core (core_keepList l kind p ql)]
  · rw [hnew, entryAt_offer] at hq
    rw [hold]
    by_cases hsame : kind' = kind ∧ p' = p
    · rw [if_pos hsame] at hq ⊢
      rcases List.getElem?_eq_some_iff.mp hq with ⟨hlt, hget⟩
      rw [List.length_append, List.length_singleton] at hlt
      rcases Nat.lt_succ_iff_lt_or_eq.mp hlt with hlt | rfl
      · rw [List.getElem?_append_left hlt] at hq
        exact .inl hq
      · exact .inr ⟨hsame.1, hsame.2, rfl, by simpa using hget.symm⟩
    · rw [if_neg hsame] at hq ⊢
      exact .inl hq
  · rw [hold] at hq
    rw [hnew, entryAt_offer]
    by_cases hsame : kind' = kind ∧ p' = p
    · rw [if_pos hsame] at hq ⊢
      obtain ⟨hlt, -⟩ := List.getElem?_eq_some_iff.mp hq
      rw [List.getElem?_append_left hlt]
      exact hq
    · rw [if_neg hsame] at hq ⊢
      exact hq
  · rw [hnew, if_pos ⟨rfl, rfl⟩]
    simp

/-- **What holds after some turns of a loop**: `s` is the loot and the player's list. -/
structure Turning (l₀ : Loot) (shares : Bool) (kind : Kind) (p i : ℕ)
    (s : Loot × List QuestItem) : Prop where
  core : s.1.core = l₀.core
  looted : s.1.flag (·.is_looted) = l₀.flag (·.is_looted)
  granted : s.1.granted = l₀.granted
  lists : s.1.lists = l₀.lists
  filling : (s.1.keepList kind p s.2).Filling shares
  below : ∀ e ∈ s.2, e.index < i
  unlooted : ∀ e ∈ s.2, l₀.flag (·.is_looted) kind.isQuest e.index = false

variable {l₀ : Loot} {shares : Bool} {s : Loot × List QuestItem}

theorem Turning.start (hl : l.Filling shares) : l.Turning shares kind p 0 (l, []) :=
  ⟨rfl, rfl, rfl, rfl, hl, by simp, by simp⟩

section

variable (h : l₀.Turning shares kind p i s)
include h

theorem Turning.skip : l₀.Turning shares kind p (i + 1) s :=
  { h with below := fun e he => Nat.lt_succ_of_lt (h.below e he) }

theorem Turning.find?_eq_none (hnone : (l₀.lists kind).find? p = none) :
    (s.1.lists kind).find? p = none := by
  rw [h.lists]
  exact hnone

theorem Turning.not_listed (hnone : (l₀.lists kind).find? p = none) :
    ¬(s.1.keepList kind p s.2).Listed kind p i := by
  rintro ⟨j, q, hq, hindex⟩
  rw [entryAt_keepList s.2 (h.find?_eq_none hnone), if_pos ⟨rfl, rfl⟩] at hq
  exact absurd hindex (Nat.ne_of_lt (h.below q (List.mem_of_getElem? hq)))

theorem Turning.offer (hitem : s.1.item? kind.isQuest i = some item)
    (hlooted : item.is_looted = false) {counts blocks marks : Bool}
    (hfilling : ((s.1.offer kind.isQuest i item p counts blocks marks).keepList kind p
      (s.2 ++ [⟨i, false⟩])).Filling shares) :
    l₀.Turning shares kind p (i + 1)
      (s.1.offer kind.isQuest i item p counts blocks marks, s.2 ++ [⟨i, false⟩]) where
  core := (core_offer ..).trans h.core
  looted := (flag_offer_of s.1 _ i item p counts blocks marks fun _ _ _ => rfl).trans h.looted
  granted := (granted_offer ..).trans h.granted
  lists := (lists_offer ..).trans h.lists
  filling := hfilling
  below := by
    intro e he
    rcases List.mem_append.mp he with he | he
    · exact Nat.lt_succ_of_lt (h.below e he)
    · rw [List.mem_singleton.mp he]
      exact Nat.lt_succ_self i
  unlooted := by
    intro e he
    rcases List.mem_append.mp he with he | he
    · exact h.unlooted e he
    · rw [List.mem_singleton.mp he, ← h.looted, flag_of_item? hitem]
      exact hlooted

end

/-! ## The three loops -/

theorem PutsOn.count {l' : Loot} {n : ℕ} (counts : Bool) (hl : l.Filling shares)
    (h : l.PutsOn l' kind p i n)
    (hfree : kind.isQuest = false →
      l.flag (fun item => item.conditions.isEmpty && !item.freeforall) false i = false)
    (hunlooted : l'.unlootedCount =
      if counts then l.unlootedCount + 1 else l.unlootedCount)
    (hcounts : counts = true ↔ l.pick kind.isQuest i p ∉ l.offered)
    (hcount : l.unlootedCount = BitVec.ofNat 8 l.owed) :
    l'.unlootedCount = BitVec.ofNat 8 l'.owed := by
  have howed := owed_insert hl.books h.core h.offered h.granted
    (fun heq => hfree (congrArg PickUp.quest heq))
  rw [howed, hunlooted, hcount]
  by_cases hmem : l.pick kind.isQuest i p ∈ l.offered
  · have hfalse : counts ≠ true := fun htrue => hcounts.mp htrue hmem
    rw [if_neg hfalse, if_pos hmem]
  · rw [if_pos (hcounts.mpr hmem), if_neg hmem, BitVec.ofNat_add]
    rfl

/-- What a filling leaves alone. -/
structure Fills (l l' : Loot) (kind : Kind) (p : ℕ) : Prop where
  core : l'.core = l.core
  looted : l'.flag (·.is_looted) = l.flag (·.is_looted)
  granted : l'.granted = l.granted
  lists : ∀ kind' p', ¬(kind' = kind ∧ p' = p) →
    (l'.lists kind').find? p' = (l.lists kind').find? p'

theorem Turning.fills (h : l₀.Turning shares kind p i s) :
    l₀.Fills (s.1.keepList kind p s.2) kind p := by
  refine ⟨(core_keepList ..).trans h.core, (flag_keepList ..).trans h.looted,
    (granted_keepList ..).trans h.granted, fun kind' p' hother => ?_⟩
  rw [find?_keepList_of_ne s.1 kind p s.2 hother, h.lists]

variable (w : World) (group : Option LootGroup)

theorem turning_questTurn (hnone : (l₀.lists .quest).find? p = none)
    (h : l₀.Turning (sharesQuestItems group) .quest p i s) :
    l₀.Turning (sharesQuestItems group) .quest p (i + 1) (questTurn w group p s i) := by
  unfold questTurn
  cases hitem : s.1.item? true i with
  | none => exact h.skip
  | some item =>
    dsimp only
    split_ifs with hfull hshown
    · exact h.skip
    · rw [Bool.and_eq_true, Bool.not_eq_true'] at hshown
      have hnew := h.not_listed hnone
      have hnone' := h.find?_eq_none hnone
      have hputs := putsOn_offer s.2 hnone' hitem (item.freeforall || !item.is_blocked)
        (!sharesQuestItems group) false
      have hffa : (s.1.keepList .quest p s.2).flag (·.freeforall) true i = item.freeforall := by
        rw [flag_keepList, flag_of_item? hitem]
      have hblocked : (s.1.keepList .quest p s.2).flag (·.is_blocked) true i =
          item.is_blocked := by
        rw [flag_keepList, flag_of_item? hitem]
      refine h.offer hitem hshown.1 (h.filling.putsOn hputs hnew (by simp)
        (by simp) (fun i' => ?_) (fun i' hone => ?_) ?_)
      · rw [flag_keepList, flag_keepList, flag_offer, if_neg (by simp [Kind.isQuest])]
        simp [pick, Kind.isQuest]
      · rw [flag_keepList, flag_keepList, flag_offer]
        by_cases heq : i' = i
        · subst heq
          rw [if_pos ⟨rfl, rfl⟩, flag_of_item? hitem, flag_of_item? hitem]
          have hpick : (s.1.keepList .quest p s.2).pick true i' p = ⟨true, i', none⟩ := by
            simp [pick, hone]
          simp [Kind.isQuest, hpick]
        · rw [if_neg (fun hall => heq hall.2)]
          simp [pick, heq]
      · -- an item for one player that was offered is blocked, unless the group shares quest items
        by_cases hdouble : sharesQuestItems group = true ∧ item.freeforall = false ∧
            ⟨true, i, none⟩ ∈ (s.1.keepList .quest p s.2).offered
        · obtain ⟨hshares, hone, hoffered⟩ := hdouble
          obtain ⟨p', hlisted, -⟩ := h.filling.listed i none hoffered
          refine .inr ⟨hshares, i, p, p', ?_, ?_, hputs.listed, hlisted.putsOn hputs⟩
          · rintro rfl
            exact hnew hlisted
          · rw [freeforall_of_core hputs.core, hffa]
            exact hone
        · refine .inl (hputs.count (item.freeforall || !item.is_blocked) h.filling
            (by simp [Kind.isQuest]) ?_ ?_)
          · rw [unlootedCount_keepList, unlootedCount_keepList]
            rfl
          · cases hfree : item.freeforall with
            | true =>
              have hnot := h.filling.not_offered hnew (by simp)
                (hffa.trans hfree)
              simpa using hnot
            | false =>
              have hbook := h.filling.blocked i (hffa.trans hfree)
              have hpick : (s.1.keepList .quest p s.2).pick true i p = ⟨true, i, none⟩ := by
                simp [pick, hffa, hfree]
              rw [hblocked] at hbook
              rw [show Kind.isQuest .quest = true from rfl, hpick]
              simp only [Bool.false_or, Bool.not_eq_true', ← Bool.not_eq_true]
              refine not_congr (hbook.trans (and_iff_left_of_imp fun hoffered => ?_))
              exact Bool.eq_false_iff.mpr fun hshares => hdouble ⟨hshares, hfree, hoffered⟩
    · exact h.skip

theorem turning_ffaTurn (hnone : (l₀.lists .freeforall).find? p = none)
    (h : l₀.Turning shares .freeforall p i s) :
    l₀.Turning shares .freeforall p (i + 1) (ffaTurn w p s i) := by
  unfold ffaTurn
  cases hitem : s.1.item? false i with
  | none => exact h.skip
  | some item =>
    dsimp only
    split_ifs with hshown
    · simp only [Bool.and_eq_true, Bool.not_eq_true'] at hshown
      obtain ⟨⟨hlooted, hfree⟩, -⟩ := hshown
      have hnew := h.not_listed hnone
      have hnone' := h.find?_eq_none hnone
      have hputs := putsOn_offer s.2 hnone' hitem true false false
      have hffa : (s.1.keepList .freeforall p s.2).flag (·.freeforall) false i = true := by
        rw [flag_keepList, flag_of_item? hitem]
        exact hfree
      refine h.offer hitem hlooted (h.filling.putsOn hputs hnew (fun _ => hffa)
        nofun (fun i' => ?_) (fun i' _ => ?_) (.inl ?_))
      · rw [flag_keepList, flag_keepList, flag_offer]
        simp [pick, Kind.isQuest, hffa]
      · rw [flag_keepList, flag_keepList, flag_offer]
        simp [pick, Kind.isQuest]
      · refine hputs.count true h.filling (fun _ => ?_) ?_ ?_
        · rw [flag_keepList, flag_of_item? hitem]
          simp [hfree]
        · rw [unlootedCount_keepList, unlootedCount_keepList]
          rfl
        · simpa using h.filling.not_offered hnew nofun hffa
    · exact h.skip

theorem turning_conditionalTurn (hnone : (l₀.lists .conditional).find? p = none)
    (h : l₀.Turning shares .conditional p i s) :
    l₀.Turning shares .conditional p (i + 1) (conditionalTurn w group p s i) := by
  unfold conditionalTurn
  cases hitem : s.1.item? false i with
  | none => exact h.skip
  | some item =>
    dsimp only
    split_ifs with hshown hcond
    · simp only [Bool.and_eq_true, Bool.not_eq_true'] at hshown
      obtain ⟨⟨-, hone⟩, -⟩ := hshown
      have hnone' := h.find?_eq_none hnone
      have hlists := lists_offer s.1 false i item p false false false
      have hkeep : ∀ f, (s.1.offer false i item p false false false).flag f = s.1.flag f := by
        intro f
        funext quest' i'
        rw [flag_offer]
        simp
      have hpick : pickUp false i item p = ⟨false, i, none⟩ := by simp [pickUp, hone]
      refine ⟨(core_offer ..).trans h.core, (hkeep _).trans h.looted,
        (granted_offer ..).trans h.granted, hlists.trans h.lists, ?_, h.skip.below, h.unlooted⟩
      refine h.filling.offer (i := i) (by simp) (fun f _ => ?_) ?_ ?_ ?_ ?_ (by simp) ?_ ?_
      · rw [flag_keepList, flag_keepList, hkeep]
      · rw [flag_keepList, flag_keepList, hkeep]
      · rw [flag_keepList, flag_keepList, hkeep]
      · funext kind' p' j
        rw [entryAt_keepList s.2 hnone', entryAt_keepList s.2 (by rw [hlists]; exact hnone'),
          entryAt_offer]
      · rw [offered_keepList, offered_keepList, ← hpick]
        rfl
      · rw [unlootedCount_keepList, unlootedCount_keepList]
        rfl
      · rw [flag_keepList, flag_of_item? hitem, hcond, hone]
        rfl
    · simp only [Bool.and_eq_true, Bool.not_eq_true'] at hshown
      obtain ⟨⟨hlooted, hone⟩, -⟩ := hshown
      have hnew := h.not_listed hnone
      have hnone' := h.find?_eq_none hnone
      have hputs := putsOn_offer s.2 hnone' hitem (!item.is_counted) false true
      have hffa : (s.1.keepList .conditional p s.2).flag (·.freeforall) false i = false := by
        rw [flag_keepList, flag_of_item? hitem]
        exact hone
      have hpick : (s.1.keepList .conditional p s.2).pick false i p = ⟨false, i, none⟩ := by
        simp [pick, hffa]
      refine h.offer hitem hlooted (h.filling.putsOn hputs hnew (by simp)
        (fun _ => hffa) (fun i' => ?_) (fun i' _ => ?_) (.inl ?_))
      · rw [flag_keepList, flag_keepList, flag_offer]
        by_cases heq : i' = i
        · subst heq
          rw [if_pos ⟨rfl, rfl⟩, flag_of_item? hitem, flag_of_item? hitem]
          simp [Kind.isQuest, hpick]
        · rw [if_neg (fun hall => heq hall.2)]
          simp [pick, heq]
      · rw [flag_keepList, flag_keepList, flag_offer]
        simp [pick, Kind.isQuest]
      · refine hputs.count (!item.is_counted) h.filling (fun _ => ?_) ?_ ?_
        · rw [flag_keepList, flag_of_item? hitem]
          simp [hcond]
        · rw [unlootedCount_keepList, unlootedCount_keepList]
          rfl
        · have hbook := h.filling.counted i (by
            rw [flag_keepList, flag_of_item? hitem]
            simp [hone, hcond])
          rw [flag_keepList, flag_of_item? hitem] at hbook
          rw [show Kind.isQuest .conditional = false from rfl, hpick]
          simp only [Bool.not_eq_true', ← Bool.not_eq_true]
          exact not_congr hbook
    · exact h.skip

end Loot

end TeraCore.Looting
