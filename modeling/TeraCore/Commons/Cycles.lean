import Mathlib.Data.Nat.ModEq
import Mathlib.Dynamics.PeriodicPts.Defs

/-!
# Cycles of a partial map

Where everything has at most one successor, a walk either ends or comes back to where it was.  The
place where it first comes onto a cycle is its entry, and the link by which it comes back to the
entry closes the cycle.

The links that close cycles can be cut one after the other, for one start after the other.  What
is cut is then determined by the map alone: it is, for every cycle, the link into the entry of the
smallest start that leads to it.

## Main definitions

* `Next f`, `OnCycle f`, `Enters f`, `Closes f`: successors, cycles, their entries and closing links
* `closingLink f`: the search that remembers what it has visited
* `CutBefore f n`: what has been cut for the starts below `n`

## Main results

* `closingLink_eq_some`, `closingLink_eq_none`: the search is sound and complete
* `IsCut.onCycle_iff`: the cycles that are left
* `IsCut.cut`, `IsCut.skip`: what one start adds
-/

namespace Commons

open Relation

variable {α : Type*} {f : α → Option α} {a b c e i j s x : α}

/-- One link of the map. -/
def Next (f : α → Option α) (a b : α) : Prop := f a = some b

/-- A walk comes back. -/
def OnCycle (f : α → Option α) (a : α) : Prop := TransGen (Next f) a a

theorem next_rightUnique : Relator.RightUnique (Next f) := fun _ _ _ hb hc =>
  Option.some.inj (hb.symm.trans hc)

theorem reaches_total (hb : ReflTransGen (Next f) a b) (hc : ReflTransGen (Next f) a c) :
    ReflTransGen (Next f) b c ∨ ReflTransGen (Next f) c b :=
  ReflTransGen.total_of_right_unique next_rightUnique hb hc

theorem OnCycle.next_reaches (ha : OnCycle f a) (h : Next f a b) : ReflTransGen (Next f) b a := by
  obtain ⟨b', hb', hback⟩ := TransGen.head'_iff.mp ha
  rwa [next_rightUnique h hb']

theorem OnCycle.reaches_back (ha : OnCycle f a) (h : ReflTransGen (Next f) a b) :
    OnCycle f b ∧ ReflTransGen (Next f) b a := by
  induction h with
  | refl => exact ⟨ha, .refl⟩
  | tail _ hbc ih =>
    have hback := ih.1.next_reaches hbc
    exact ⟨TransGen.tail' hback hbc, hback.trans ih.2⟩

/-- **The entry of a walk**: the first place on it that is on a cycle. -/
inductive Enters (f : α → Option α) : α → α → Prop
  | here {e : α} (h : OnCycle f e) : Enters f e e
  | step {i j e : α} (hij : f i = some j) (hi : ¬OnCycle f i) (h : Enters f j e) : Enters f i e

theorem Enters.onCycle (h : Enters f i e) : OnCycle f e := by
  induction h with
  | here h => exact h
  | step _ _ _ ih => exact ih

theorem Enters.reaches (h : Enters f i e) : ReflTransGen (Next f) i e := by
  induction h with
  | here => exact .refl
  | step hij _ _ ih => exact .head hij ih

theorem exists_enters (h : ReflTransGen (Next f) i a) (ha : OnCycle f a) :
    ∃ e, Enters f i e ∧ ReflTransGen (Next f) e a := by
  induction h using ReflTransGen.head_induction_on with
  | refl => exact ⟨a, .here ha, .refl⟩
  | head hij hja ih =>
    rename_i i j
    by_cases hi : OnCycle f i
    · exact ⟨i, .here hi, .head hij hja⟩
    · obtain ⟨e, he, hea⟩ := ih
      exact ⟨e, .step hij hi he, hea⟩

theorem Enters.unique (h : Enters f i e) (h' : Enters f i a) : e = a := by
  induction h with
  | here h =>
    cases h' with
    | here => rfl
    | step _ hi _ => exact absurd h hi
  | step hij hi _ ih =>
    cases h' with
    | here h => exact absurd h hi
    | step hij' _ h' => exact ih (next_rightUnique hij hij' ▸ h')

/-- The link that leads back to a place on a cycle. -/
structure Closes (f : α → Option α) (x e : α) : Prop where
  reaches : ReflTransGen (Next f) e x
  next : f x = some e

theorem Closes.onCycle (h : Closes f x e) : OnCycle f e := TransGen.tail' h.reaches h.next

theorem OnCycle.exists_closes (h : OnCycle f e) : ∃ x, Closes f x e := by
  obtain ⟨x, hx, hnext⟩ := TransGen.tail'_iff.mp h
  exact ⟨x, hx, hnext⟩

/-- The successor, or the place itself where there is none. -/
def advance (f : α → Option α) (a : α) : α := (f a).getD a

theorem advance_of_next (h : f a = some b) : advance f a = b := by rw [advance, h, Option.getD_some]

theorem exists_iterate (h : ReflTransGen (Next f) a b) : ∃ n, (advance f)^[n] a = b := by
  induction h with
  | refl => exact ⟨0, rfl⟩
  | tail _ hbc ih =>
    obtain ⟨n, hn⟩ := ih
    exact ⟨n + 1, by rw [Function.iterate_succ_apply', hn, advance_of_next hbc]⟩

/-- The length of a walk to a closing link is one less than a multiple of the cycle's. -/
theorem Closes.minimalPeriod_dvd (h : Closes f x e) {n : ℕ} (hn : (advance f)^[n] e = x) :
    Function.minimalPeriod (advance f) e ∣ n + 1 := by
  refine Function.IsPeriodicPt.minimalPeriod_dvd ?_
  rw [Function.IsPeriodicPt, Function.IsFixedPt, Function.iterate_succ_apply', hn,
    advance_of_next h.next]

/-- **A cycle is closed at one place.** -/
theorem Closes.unique (h : Closes f x e) (h' : Closes f a e) : x = a := by
  obtain ⟨n, hn⟩ := exists_iterate h.reaches
  obtain ⟨m, hm⟩ := exists_iterate h'.reaches
  have hmod : n % Function.minimalPeriod (advance f) e =
      m % Function.minimalPeriod (advance f) e := by
    have hzero := Nat.mod_eq_zero_of_dvd (h.minimalPeriod_dvd hn)
    have hzero' := Nat.mod_eq_zero_of_dvd (h'.minimalPeriod_dvd hm)
    exact Nat.ModEq.add_right_cancel' 1 (hzero.trans hzero'.symm)
  rw [← hn, ← hm, ← Function.iterate_mod_minimalPeriod_eq, hmod,
    Function.iterate_mod_minimalPeriod_eq]

/-! ## Trails -/

/-- What a search has visited on its way from `s`. -/
inductive Trail (f : α → Option α) (s : α) : α → List α → Prop
  | start : Trail f s s []
  | step {i j : α} {visited : List α} (h : Trail f s i visited) (hij : f i = some j)
      (hj : j ∉ i :: visited) : Trail f s j (i :: visited)

variable {visited : List α}

section

variable (h : Trail f s i visited)
include h

theorem Trail.nodup : (i :: visited).Nodup := by
  induction h with
  | start => exact List.nodup_singleton s
  | step _ _ hj ih => exact List.nodup_cons.mpr ⟨hj, ih⟩

theorem Trail.reaches : ReflTransGen (Next f) s i := by
  induction h with
  | start => exact .refl
  | step _ hij _ ih => exact ih.tail hij

theorem Trail.visited_reaches : ∀ y ∈ i :: visited, ReflTransGen (Next f) y i := by
  induction h with
  | start =>
    intro y hy
    rw [List.mem_singleton.mp hy]
  | step _ hij _ ih =>
    intro y hy
    rcases List.mem_cons.mp hy with rfl | hy
    · exact .refl
    · exact (ih y hy).tail hij

theorem Trail.exists_next : ∀ y ∈ visited, ∃ z, f y = some z := by
  induction h with
  | start => exact fun y hy => absurd hy List.not_mem_nil
  | step _ hij _ ih =>
    intro y hy
    rcases List.mem_cons.mp hy with rfl | hy
    · exact ⟨_, hij⟩
    · exact ih y hy

/-- A visited place divides the trail: the older part is a trail to it, and the links of the newer
part stay in the newer part. -/
theorem Trail.split (hj : j ∈ i :: visited) :
    ∃ newer older, i :: visited = newer ++ j :: older ∧ Trail f s j older ∧
      ∀ z ∈ newer ++ [j], z ≠ i → ∃ z' ∈ newer ++ [j], f z = some z' := by
  induction h with
  | start =>
    obtain rfl := List.mem_singleton.mp hj
    exact ⟨[], [], rfl, .start, fun z hz hne => absurd (List.mem_singleton.mp hz) hne⟩
  | @step i k visited h hik hk ih =>
    by_cases hjk : j = k
    · subst hjk
      exact ⟨[], i :: visited, rfl, .step h hik hk,
        fun z hz hne => absurd (List.mem_singleton.mp hz) hne⟩
    · obtain ⟨newer, older, hsplit, htrail, hnext⟩ := ih (List.mem_of_ne_of_mem hjk hj)
      refine ⟨k :: newer, older, congrArg (k :: ·) hsplit, htrail, fun z hz hne => ?_⟩
      have hz' : z ∈ newer ++ [j] := List.mem_of_ne_of_mem hne hz
      by_cases hzi : z = i
      · exact ⟨k, List.mem_cons_self, hzi ▸ hik⟩
      · obtain ⟨z', hz', hnext⟩ := hnext z hz' hzi
        exact ⟨z', List.mem_cons_of_mem k hz', hnext⟩

theorem Trail.enters (hvisited : ∀ y ∈ visited, ¬OnCycle f y) (he : Enters f i e) :
    Enters f s e := by
  induction h with
  | start => exact he
  | step _ hij _ ih =>
    exact ih (fun y hy => hvisited y (List.mem_cons_of_mem _ hy))
      (.step hij (hvisited _ List.mem_cons_self) he)

theorem Trail.closes (hij : f i = some j) (hj : j ∈ i :: visited) :
    Enters f s j ∧ Closes f i j := by
  obtain ⟨newer, older, hsplit, htrail, hnext⟩ := h.split hj
  have hcloses : Closes f i j := ⟨h.visited_reaches j hj, hij⟩
  -- What is reached from `j` is in the newer part.
  have hstay : ∀ y, ReflTransGen (Next f) j y → y ∈ newer ++ [j] := by
    intro y hy
    induction hy with
    | refl => exact List.mem_append_right _ (List.mem_singleton_self j)
    | @tail y z _ hyz ih =>
      by_cases hyi : y = i
      · rw [hyi] at hyz
        rw [next_rightUnique hyz hij]
        exact List.mem_append_right _ (List.mem_singleton_self j)
      · obtain ⟨z', hz', hnext⟩ := hnext y ih hyi
        rwa [next_rightUnique hyz hnext]
  refine ⟨htrail.enters (fun y hy hcycle => ?_) (.here hcloses.onCycle), hcloses⟩
  have hback := (hcycle.reaches_back (htrail.visited_reaches y (List.mem_cons_of_mem j hy))).2
  have hnodup := h.nodup
  rw [hsplit, List.append_cons] at hnodup
  exact (List.nodup_append.mp hnodup).2.2 y (hstay y hback) y hy rfl

end

theorem not_enters_of_end (hi : ReflTransGen (Next f) s i) (hend : f i = none) :
    ¬Enters f s e := by
  intro h
  have hcycle : OnCycle f i := by
    rcases reaches_total hi h.reaches with hie | hei
    · rcases ReflTransGen.cases_head hie with rfl | ⟨k, hk, -⟩
      · exact h.onCycle
      · exact absurd (hend.symm.trans hk) (Option.some_ne_none k).symm
    · exact (h.onCycle.reaches_back hei).1
  obtain ⟨k, hk, -⟩ := TransGen.head'_iff.mp hcycle
  exact absurd (hend.symm.trans hk) (Option.some_ne_none k).symm

/-! ## The search -/

section Search

variable [DecidableEq α] {fuel : ℕ}

/-- The search for a closing link, with what has been visited, newest first. -/
def closingLink (f : α → Option α) : ℕ → α → List α → Option (α × α)
  | 0, _, _ => none
  | fuel + 1, i, visited =>
    match f i with
    | none => none
    | some j => if j ∈ i :: visited then some (i, j) else closingLink f fuel j (i :: visited)

/-- **Soundness** of the search. -/
theorem closingLink_eq_some (ht : Trail f s i visited)
    (h : closingLink f fuel i visited = some (x, e)) : Enters f s e ∧ Closes f x e := by
  induction fuel generalizing i visited with
  | zero => exact absurd h (by simp [closingLink])
  | succ fuel ih =>
    rw [closingLink] at h
    cases hij : f i with
    | none => simp [hij] at h
    | some j =>
      simp only [hij] at h
      split at h
      · rename_i hj
        cases h
        exact ht.closes hij hj
      · rename_i hj
        exact ih (ht.step hij hj) h

/-- **Completeness** of a search with one turn more than the map has places. -/
theorem closingLink_eq_none (places : Finset α) (hplaces : ∀ a b, f a = some b → a ∈ places)
    (hfuel : places.card < fuel + visited.length) (ht : Trail f s i visited)
    (h : closingLink f fuel i visited = none) : ¬Enters f s e := by
  induction fuel generalizing i visited with
  | zero =>
    have hsub : visited.toFinset ⊆ places := fun y hy => by
      obtain ⟨z, hz⟩ := ht.exists_next y (List.mem_toFinset.mp hy)
      exact hplaces y z hz
    have hcard := Finset.card_le_card hsub
    rw [List.toFinset_card_of_nodup (List.nodup_cons.mp ht.nodup).2] at hcard
    omega
  | succ fuel ih =>
    rw [closingLink] at h
    cases hij : f i with
    | none => exact not_enters_of_end ht.reaches hij
    | some j =>
      simp only [hij] at h
      split at h
      · exact absurd h (Option.some_ne_none _)
      · rename_i hj
        refine ih ?_ (ht.step hij hj) h
        rw [List.length_cons]
        omega

end Search

/-! ## Submaps -/

section Submap

variable {g : α → Option α} (hg : ∀ a b, g a = some b → f a = some b)

include hg

theorem OnCycle.of_submap (h : OnCycle g a) : OnCycle f a := TransGen.mono hg _ _ h

theorem OnCycle.next_of_submap (h : OnCycle g a) (hab : f a = some b) : g a = some b := by
  obtain ⟨c, hc, -⟩ := TransGen.head'_iff.mp h
  have hcb : c = b := next_rightUnique (hg a c hc) hab
  exact hcb ▸ hc

theorem OnCycle.reaches_of_submap (h : OnCycle g a) (hab : ReflTransGen (Next f) a b) :
    ReflTransGen (Next g) a b := by
  induction hab with
  | refl => exact .refl
  | tail _ hbc ih => exact ih.tail ((h.reaches_back ih).1.next_of_submap hg hbc)

theorem OnCycle.closes_iff_of_submap (h : OnCycle g e) : Closes g x e ↔ Closes f x e := by
  constructor
  · exact fun hx => ⟨ReflTransGen.mono hg _ _ hx.reaches, hg x e hx.next⟩
  · intro hx
    have hreach := h.reaches_of_submap hg hx.reaches
    exact ⟨hreach, (h.reaches_back hreach).1.next_of_submap hg hx.next⟩

end Submap

/-! ## Cutting -/

section Cutting

variable {f g : ℕ → Option ℕ} {n a b c e i x : ℕ}

variable (f)

/-- **What is cut** for the starts below `n`: for every cycle that one of them leads to, the link
into the place where the smallest of them enters it. -/
def CutBefore (n c : ℕ) : Prop :=
  ∃ i < n, ∃ e, Enters f i e ∧ Closes f c e ∧ ∀ j < i, ¬ReflTransGen (Next f) j e

/-- `g` is what is left of `f`. -/
def IsCut (n : ℕ) (g : ℕ → Option ℕ) : Prop :=
  ∀ a b, g a = some b ↔ f a = some b ∧ ¬CutBefore f n a

theorem isCut_zero : IsCut f 0 f := fun _ _ =>
  ⟨fun h => ⟨h, fun ⟨i, hi, _⟩ => Nat.not_lt_zero i hi⟩, fun h => h.1⟩

variable {f}

theorem IsCut.submap (h : IsCut f n g) : ∀ a b, g a = some b → f a = some b := fun a b hab =>
  ((h a b).mp hab).1

theorem CutBefore.onCycle (h : CutBefore f n c) : OnCycle f c := by
  obtain ⟨i, -, e, he, hc, -⟩ := h
  exact (he.onCycle.reaches_back hc.reaches).1

/-- **The cycles that are left** are those that no start so far leads to. -/
theorem IsCut.onCycle_iff (h : IsCut f n g) :
    OnCycle g a ↔ OnCycle f a ∧ ∀ j < n, ¬ReflTransGen (Next f) j a := by
  constructor
  · intro ha
    refine ⟨ha.of_submap h.submap, fun j hj hja => ?_⟩
    -- The smallest start that leads there has cut the cycle.
    classical
    have hex : ∃ i, ReflTransGen (Next f) i a := ⟨j, hja⟩
    obtain ⟨i, hi, hmin⟩ : ∃ i, ReflTransGen (Next f) i a ∧
        ∀ j < i, ¬ReflTransGen (Next f) j a :=
      ⟨Nat.find hex, Nat.find_spec hex, fun _ => Nat.find_min hex⟩
    have hin : i < n := lt_of_le_of_lt (not_lt.mp fun hlt => hmin j hlt hja) hj
    obtain ⟨e, he, hea⟩ := exists_enters hi (ha.of_submap h.submap)
    obtain ⟨c, hc⟩ := he.onCycle.exists_closes
    have hcut : CutBefore f n c := ⟨i, hin, e, he, hc, fun j hj hje => hmin j hj (hje.trans hea)⟩
    have hac := (he.onCycle.reaches_back hea).2.trans hc.reaches
    have hcycle := (ha.reaches_back (ha.reaches_of_submap h.submap hac)).1
    exact ((h c e).mp (hcycle.next_of_submap h.submap hc.next)).2 hcut
  · rintro ⟨ha, hnone⟩
    have hkept : ∀ y z, ReflTransGen (Next f) a y → f y = some z → g y = some z := by
      refine fun y z hy hyz => (h y z).mpr ⟨hyz, fun ⟨i, hi, e, he, hc, _⟩ => hnone i hi ?_⟩
      exact (he.reaches.trans hc.reaches).trans (ha.reaches_back hy).2
    have hreach : ∀ y, ReflTransGen (Next f) a y → ReflTransGen (Next g) a y := by
      intro y hy
      induction hy with
      | refl => exact .refl
      | tail hay hyz ih => exact ih.tail (hkept _ _ hay hyz)
    obtain ⟨y, hy, hya⟩ := TransGen.tail'_iff.mp ha
    exact TransGen.tail' (hreach y hy) (hkept y a hy hya)

theorem IsCut.enters_iff (h : IsCut f n g) :
    Enters g i e ↔ Enters f i e ∧ ∀ j < n, ¬ReflTransGen (Next f) j e := by
  constructor
  · intro he
    induction he with
    | here he => exact ⟨.here (h.onCycle_iff.mp he).1, (h.onCycle_iff.mp he).2⟩
    | @step i j e hij hi _ ih =>
      refine ⟨.step (h.submap i j hij) (fun hcycle => ?_) ih.1, ih.2⟩
      refine hi (h.onCycle_iff.mpr ⟨hcycle, fun k hk hki => ih.2 k hk ?_⟩)
      exact (hki.tail (h.submap i j hij)).trans ih.1.reaches
  · rintro ⟨he, hnone⟩
    induction he with
    | here he => exact .here (h.onCycle_iff.mpr ⟨he, hnone⟩)
    | @step i j e hij hi _ ih =>
      refine .step ((h i j).mpr ⟨hij, fun hcut => hi hcut.onCycle⟩) (fun hcycle => hi ?_) (ih hnone)
      exact hcycle.of_submap h.submap

theorem cutBefore_succ :
    CutBefore f (n + 1) c ↔ CutBefore f n c ∨
      ∃ e, Enters f n e ∧ Closes f c e ∧ ∀ j < n, ¬ReflTransGen (Next f) j e := by
  constructor
  · rintro ⟨i, hi, hcut⟩
    rcases Nat.lt_succ_iff_lt_or_eq.mp hi with hi | rfl
    · exact .inl ⟨i, hi, hcut⟩
    · exact .inr hcut
  · rintro (⟨i, hi, hcut⟩ | hcut)
    · exact ⟨i, Nat.lt_succ_of_lt hi, hcut⟩
    · exact ⟨n, Nat.lt_succ_self n, hcut⟩

/-- **A start that leads to a cycle** adds its closing link. -/
theorem IsCut.cutBefore_succ_of_closes (h : IsCut f n g) (he : Enters g n e) (hx : Closes g x e) :
    CutBefore f (n + 1) c ↔ CutBefore f n c ∨ c = x := by
  obtain ⟨hef, hnone⟩ := h.enters_iff.mp he
  have hxf := (he.onCycle.closes_iff_of_submap h.submap).mp hx
  rw [cutBefore_succ]
  refine or_congr_right ⟨?_, ?_⟩
  · rintro ⟨e', he', ha, -⟩
    rw [he'.unique hef] at ha
    exact ha.unique hxf
  · rintro rfl
    exact ⟨e, hef, hxf, hnone⟩

theorem IsCut.cutBefore_succ_of_not_enters (h : IsCut f n g) (hnone : ∀ e, ¬Enters g n e) :
    CutBefore f (n + 1) c ↔ CutBefore f n c := by
  rw [cutBefore_succ]
  refine or_iff_left ?_
  rintro ⟨e, he, -, hfree⟩
  exact hnone e (h.enters_iff.mpr ⟨he, hfree⟩)

theorem IsCut.cut (h : IsCut f n g) (he : Enters g n e) (hx : Closes g x e) {g' : ℕ → Option ℕ}
    (hg' : ∀ a, g' a = if a = x then none else g a) : IsCut f (n + 1) g' := by
  intro a b
  rw [hg', h.cutBefore_succ_of_closes he hx]
  by_cases hax : a = x
  · simp [hax]
  · rw [if_neg hax, h a b]
    simp [hax]

theorem IsCut.skip (h : IsCut f n g) (hnone : ∀ e, ¬Enters g n e) : IsCut f (n + 1) g := by
  intro a b
  rw [h a b, h.cutBefore_succ_of_not_enters hnone]

end Cutting

end Commons
