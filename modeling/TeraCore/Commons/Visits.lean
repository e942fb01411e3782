import Mathlib.Data.Finset.Card
import TeraCore.Commons.Loop

/-!
# Visits of everything that can be reached

The contents of a place are values and other places, which may lead back to it.  A visit collects
the values, and remembers where it has been, so that it enters no place twice.

What is remembered is shared by all the visits of the same walk.  So a visit that comes back has not
collected everything that can be reached from its place, but the places that are remembered then are
closed: what they lead to is remembered, too, except where an outer visit is still under way.

## Main definitions

* `Visits`: the places that were entered, and the values that were found
* `visit`: the recursion, to some depth
* `LeadsOnTo`: one place can be reached from another

## Main results

* `visit_returns`: a visit ends, and has found exactly the values that can be reached
-/

namespace Commons

open Relation

variable {ν β : Type*} (content : ν → List (ν ⊕ β))

/-- The places that were entered, and the values that were found. -/
structure Visits (ν β : Type*) where
  used : Finset ν
  found : Finset β

/-- **A visit**, if it goes no deeper than this. -/
def visit [DecidableEq ν] [DecidableEq β] : ℕ → Visits ν β → ν → Option (Visits ν β)
  | 0, _, _ => none
  | depth + 1, s, a =>
    if a ∈ s.used then some s
    else (content a).foldlM (fun s item => match item with
      | .inl b => visit depth s b
      | .inr value => some { s with found := insert value s.found })
        { s with used := insert a s.used }

/-- One place is in the contents of the other. -/
def LeadsTo (a b : ν) : Prop := .inl b ∈ content a

/-- **A place can be reached from another.** -/
def LeadsOnTo (a b : ν) : Prop := ReflTransGen (LeadsTo content) a b

variable {content} {s s' t : Visits ν β} {a b : ν} {value : β} {depth : ℕ}

/-- What the visits that lie between two states have done: the places that were entered in between
are reached from one of the given ones, and their contents have been gone through. -/
structure Explored (content : ν → List (ν ⊕ β)) (start : ν → Prop) (s s' : Visits ν β) : Prop where
  used : s.used ⊆ s'.used
  found : s.found ⊆ s'.found
  reached : ∀ b ∈ s'.used, b ∉ s.used → ∃ a, start a ∧ LeadsOnTo content a b
  closed : ∀ b ∈ s'.used, b ∉ s.used → ∀ c, .inl c ∈ content b → c ∈ s'.used
  collected : ∀ b ∈ s'.used, b ∉ s.used → ∀ value, .inr value ∈ content b → value ∈ s'.found
  sound : ∀ value ∈ s'.found, value ∉ s.found →
    ∃ a b, start a ∧ LeadsOnTo content a b ∧ .inr value ∈ content b

namespace Explored

variable {start start' : ν → Prop}

theorem refl (s : Visits ν β) : Explored content start s s :=
  ⟨subset_rfl, subset_rfl, fun _ h h' => absurd h h', fun _ h h' => absurd h h',
    fun _ h h' => absurd h h', fun _ h h' => absurd h h'⟩

theorem trans (h : Explored content start s s') (h' : Explored content start s' t) :
    Explored content start s t := by
  refine ⟨h.used.trans h'.used, h.found.trans h'.found, fun b hb hnot => ?_,
    fun b hb hnot c hc => ?_,
    fun b hb hnot value hvalue => ?_, fun value hvalue hnot => ?_⟩
  · by_cases hmem : b ∈ s'.used
    · exact h.reached b hmem hnot
    · exact h'.reached b hb hmem
  · by_cases hmem : b ∈ s'.used
    · exact h'.used (h.closed b hmem hnot c hc)
    · exact h'.closed b hb hmem c hc
  · by_cases hmem : b ∈ s'.used
    · exact h'.found (h.collected b hmem hnot value hvalue)
    · exact h'.collected b hb hmem value hvalue
  · by_cases hmem : value ∈ s'.found
    · exact h.sound value hmem hnot
    · exact h'.sound value hvalue hmem

theorem mono (h : Explored content start s s') (hle : ∀ a, start a → ∃ a', start' a' ∧
    LeadsOnTo content a' a) : Explored content start' s s' := by
  refine ⟨h.used, h.found, fun b hb hnot => ?_, h.closed, h.collected, fun value hvalue hnot => ?_⟩
  · obtain ⟨a, ha, hab⟩ := h.reached b hb hnot
    obtain ⟨a', ha', haa'⟩ := hle a ha
    exact ⟨a', ha', haa'.trans hab⟩
  · obtain ⟨a, b, ha, hab, hmem⟩ := h.sound value hvalue hnot
    obtain ⟨a', ha', haa'⟩ := hle a ha
    exact ⟨a', b, ha', haa'.trans hab, hmem⟩

theorem of_value [DecidableEq β] (s : Visits ν β) (h : .inr value ∈ content a) :
    Explored content (· = a) s { s with found := insert value s.found } := by
  refine ⟨subset_rfl, Finset.subset_insert _ _, fun _ h h' => absurd h h',
    fun _ h h' => absurd h h', fun _ h h' => absurd h h', fun v hv hnot => ?_⟩
  rcases Finset.mem_insert.mp hv with rfl | hv
  · exact ⟨a, a, rfl, .refl, h⟩
  · exact absurd hv hnot

end Explored

variable [DecidableEq ν] [DecidableEq β]

/-- The loop of a visit over the contents of its place. -/
def visitAll (content : ν → List (ν ⊕ β)) (depth : ℕ) (items : List (ν ⊕ β)) (s : Visits ν β) :
    Option (Visits ν β) :=
  items.foldlM (fun s item => match item with
    | .inl b => visit content depth s b
    | .inr value => some { s with found := insert value s.found }) s

theorem visit_succ (depth : ℕ) (s : Visits ν β) (a : ν) : visit content (depth + 1) s a =
    if a ∈ s.used then some s
    else visitAll content depth (content a) { s with used := insert a s.used } := rfl

/-- The loop over the contents of a place, when the visits of the places in it do as they should. -/
theorem explored_visitAll {items : List (ν ⊕ β)}
    (hvisit : ∀ s s' b, visit content depth s b = some s' →
      b ∈ s'.used ∧ Explored content (· = b) s s')
    (hitems : ∀ item ∈ items, item ∈ content a) (h : visitAll content depth items s = some s') :
    Explored content (· = a) s s' ∧ (∀ c, .inl c ∈ items → c ∈ s'.used) ∧
      ∀ v, .inr v ∈ items → v ∈ s'.found := by
  induction items generalizing s with
  | nil =>
    obtain rfl := Option.some.inj h
    exact ⟨.refl s, by simp, by simp⟩
  | cons item items ih =>
    rw [visitAll, List.foldlM_cons] at h
    obtain ⟨s₁, hitem, hrest⟩ := Option.bind_eq_some_iff.mp h
    obtain ⟨hexplored, hplaces, hvalues⟩ :=
      ih (fun item hitem => hitems item (List.mem_cons_of_mem _ hitem)) hrest
    have hmem := hitems item List.mem_cons_self
    have hfirst : Explored content (· = a) s s₁ ∧ (∀ c, item = .inl c → c ∈ s₁.used) ∧
        ∀ v, item = .inr v → v ∈ s₁.found := by
      cases item with
      | inl b =>
        obtain ⟨hb, hexplored⟩ := hvisit s s₁ b hitem
        refine ⟨hexplored.mono ?_, fun c hc => Sum.inl.inj hc ▸ hb, fun v hv => by cases hv⟩
        rintro _ rfl
        exact ⟨a, rfl, .single hmem⟩
      | inr value =>
        cases hitem
        exact ⟨.of_value s hmem, by simp, by simp⟩
    obtain ⟨hone, hplace, hvalue⟩ := hfirst
    refine ⟨hone.trans hexplored, fun c hc => ?_, fun v hv => ?_⟩
    · rcases List.mem_cons.mp hc with hc | hc
      · exact hexplored.used (hplace c hc.symm)
      · exact hplaces c hc
    · rcases List.mem_cons.mp hv with hv | hv
      · exact hexplored.found (hvalue v hv.symm)
      · exact hvalues v hv

/-- **What a visit does**: it enters its place, and goes through everything that it enters. -/
theorem explored_visit (h : visit content depth s a = some s') :
    a ∈ s'.used ∧ Explored content (· = a) s s' := by
  induction depth generalizing s s' a with
  | zero => cases h
  | succ depth ih =>
    rw [visit_succ] at h
    split_ifs at h with hused
    · cases h
      exact ⟨hused, .refl s⟩
    · obtain ⟨hexplored, hplaces, hvalues⟩ :=
        explored_visitAll (fun s s' b h => ih h) (fun item h => h) h
      have ha : a ∈ s'.used := hexplored.used (Finset.mem_insert_self _ _)
      -- the place itself is entered before its contents are gone through
      have hnew : ∀ b, b ∉ s.used → b ≠ a → b ∉ insert a s.used := fun b hb hne hmem =>
        (Finset.mem_insert.mp hmem).elim hne hb
      refine ⟨ha, ⟨(Finset.subset_insert _ _).trans hexplored.used, hexplored.found,
        fun b hb hnot => ?_, fun b hb hnot c hc => ?_, fun b hb hnot v hv => ?_, hexplored.sound⟩⟩
      · by_cases heq : b = a
        · exact ⟨a, rfl, heq ▸ .refl⟩
        · exact hexplored.reached b hb (hnew b hnot heq)
      · by_cases heq : b = a
        · exact hplaces c (heq ▸ hc)
        · exact hexplored.closed b hb (hnew b hnot heq) c hc
      · by_cases heq : b = a
        · exact hvalues v (heq ▸ hv)
        · exact hexplored.collected b hb (hnew b hnot heq) v hv

theorem visitAll_isSome {places : Finset ν} {items : List (ν ⊕ β)}
    (hvisit : ∀ s b, .inl b ∈ items → (places \ s.used).card < depth →
      (visit content depth s b).isSome = true)
    (hdepth : (places \ s.used).card < depth) :
    (visitAll content depth items s).isSome = true := by
  induction items generalizing s with
  | nil => rfl
  | cons item items ih =>
    have hrest := fun s b hb => hvisit s b (List.mem_cons_of_mem item hb)
    rw [visitAll, List.foldlM_cons]
    cases item with
    | inl b =>
      obtain ⟨s₁, hs₁⟩ := Option.isSome_iff_exists.mp (hvisit s b List.mem_cons_self hdepth)
      have hused := (explored_visit hs₁).2.used
      have hcard := Finset.card_le_card (Finset.sdiff_subset_sdiff (subset_refl places) hused)
      dsimp only
      rw [hs₁]
      exact ih hrest (hcard.trans_lt hdepth)
    | inr value => exact ih hrest hdepth

/-- **A visit ends**: every level enters one more of the places that there are. -/
theorem visit_isSome {places : Finset ν} (hplaces : ∀ a b, LeadsTo content a b → b ∈ places)
    (ha : a ∈ places) (hdepth : (places \ s.used).card < depth) :
    (visit content depth s a).isSome = true := by
  induction depth generalizing s a with
  | zero => omega
  | succ depth ih =>
    rw [visit_succ]
    split_ifs with hused
    · rfl
    · have hless : (places \ insert a s.used).card < (places \ s.used).card := by
        refine Finset.card_lt_card ⟨Finset.sdiff_subset_sdiff subset_rfl (Finset.subset_insert _ _),
          fun hsub => ?_⟩
        have hmem := hsub (Finset.mem_sdiff.mpr ⟨ha, hused⟩)
        exact (Finset.mem_sdiff.mp hmem).2 (Finset.mem_insert_self _ _)
      apply visitAll_isSome
      · intro s b hb hcard
        exact ih (hplaces a b hb) hcard
      · exact Nat.lt_of_lt_of_le hless (Nat.le_of_lt_succ hdepth)

theorem visitAll_deeper {items : List (ν ⊕ β)}
    (hvisit : ∀ s s' b, visit content depth s b = some s' →
      visit content (depth + 1) s b = some s')
    (h : visitAll content depth items s = some s') :
    visitAll content (depth + 1) items s = some s' := by
  induction items generalizing s with
  | nil => exact h
  | cons item items ih =>
    rw [visitAll, List.foldlM_cons] at h ⊢
    obtain ⟨s₁, hitem, hrest⟩ := Option.bind_eq_some_iff.mp h
    refine Option.bind_eq_some_iff.mpr ⟨s₁, ?_, ih hrest⟩
    cases item with
    | inl b => exact hvisit s s₁ b hitem
    | inr value => exact hitem

theorem visit_deeper (h : visit content depth s a = some s') :
    visit content (depth + 1) s a = some s' := by
  induction depth generalizing s s' a with
  | zero => cases h
  | succ depth ih =>
    rw [visit_succ] at h ⊢
    split_ifs at h ⊢ with hused
    · exact h
    · exact visitAll_deeper (fun s s' b h => ih h) h

/-- **A visit finds exactly the values that can be reached**, when it is the first one. -/
theorem visit_returns {places : Finset ν} (hplaces : ∀ a b, LeadsTo content a b → b ∈ places)
    (a : ν) : ∃ s', (∀ depth, (insert a places).card < depth →
        visit content depth ⟨∅, ∅⟩ a = some s') ∧
      ∀ value, value ∈ s'.found ↔ ∃ b, LeadsOnTo content a b ∧ .inr value ∈ content b := by
  have hsome : (visit content ((insert a places).card + 1) ⟨∅, ∅⟩ a).isSome = true :=
    visit_isSome (fun a b h => Finset.mem_insert_of_mem (hplaces a b h))
      (Finset.mem_insert_self _ _) (by simp)
  obtain ⟨s', hs'⟩ := Option.isSome_iff_exists.mp hsome
  refine ⟨s', fun depth hdepth => ?_, fun value => ⟨fun hvalue => ?_, ?_⟩⟩
  · induction depth, hdepth using Nat.le_induction with
    | base => exact hs'
    | succ depth _ ih => exact visit_deeper ih
  · obtain ⟨_, b, rfl, hreach, hmem⟩ :=
      (explored_visit hs').2.sound value hvalue (Finset.notMem_empty _)
    exact ⟨b, hreach, hmem⟩
  · obtain ⟨ha, hexplored⟩ := explored_visit hs'
    -- what was entered is closed, since nothing was before
    have hentered : ∀ b, LeadsOnTo content a b → b ∈ s'.used := by
      intro b hreach
      induction hreach with
      | refl => exact ha
      | tail _ hstep ih => exact hexplored.closed _ ih (Finset.notMem_empty _) _ hstep
    rintro ⟨b, hreach, hmem⟩
    exact hexplored.collected b (hentered b hreach) (Finset.notMem_empty _) value hmem

end Commons
