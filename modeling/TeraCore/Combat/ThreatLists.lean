import TeraCore.Commons.Run
import TeraCore.Combat.ThreatManager

/-!
# Threat managers: the lists

The references of a manager are in one of two lists, and their flags say in which.  A unit has one
reference at most: a new one is made only where neither list has one.

Where a reference is taken offline, the manager has moved it before anything else is asked of it;
so the reference that is being removed goes from the offline list, and the current victim is never
a reference that went offline.

## Main results

* `setOnlineOfflineState_keeps`, `addThreatTo_keeps`, `addThreat_keeps`: what the operations keep
* `oneListEach_of_run`: each reference is in one list, in every run
-/

namespace TeraCore.Combat

namespace ThreatManager

variable {τ : Type} {t : Threat τ} {w : World τ} {m m' : ThreatManager τ} {a : ℕ}

/-- The references of both lists. -/
def references (m : ThreatManager τ) : List ℕ := m.iThreatContainer ++ m.iThreatOfflineContainer

theorem has_iff : m.Has a ↔ a ∈ m.references := List.mem_append.symm

/-- **The lists part the references**: a unit has one at most; the flag of a reference says which
list it is in; the current victim is online; and a reference is linked to its unit. -/
structure Parted (m : ThreatManager τ) : Prop where
  single : (m.references.map fun a => (m.reference a).iUnitGuid).Nodup
  online : ∀ a ∈ m.iThreatContainer, (m.reference a).iOnline = true
  offline : ∀ a ∈ m.iThreatOfflineContainer, (m.reference a).iOnline = false
  victim : ∀ a, m.iCurrentVictim = some a → a ∈ m.iThreatContainer
  fresh : ∀ a ∈ m.references, a < m.allocated
  linked : ∀ a ∈ m.references, (m.reference a).iRefTo ≠ none

/-- **A change keeps the lists parted**, and loses no reference. -/
structure Keeps (m m' : ThreatManager τ) : Prop where
  parted : m'.Parted
  has : ∀ a, m.Has a → m'.Has a

theorem Keeps.trans {m'' : ThreatManager τ} (h : Keeps m m') (h' : Keeps m' m'') : Keeps m m'' :=
  ⟨h'.parted, fun a ha => h'.has a (h.has a ha)⟩

theorem Parted.self (h : m.Parted) : Keeps m m := ⟨h, fun _ ha => ha⟩

theorem parted_of_empty (hon : m.iThreatContainer = []) (hoff : m.iThreatOfflineContainer = [])
    (hvictim : m.iCurrentVictim = none) : m.Parted := by
  have href : m.references = [] := by rw [references, hon, hoff, List.append_nil]
  refine ⟨?_, ?_, ?_, ?_, ?_, ?_⟩
  · rw [href]
    exact List.nodup_nil
  · simp [hon]
  · simp [hoff]
  · simp [hvictim]
  · simp [href]
  · simp [href]

theorem Parted.nodup (h : m.Parted) : m.references.Nodup := h.single.of_map _

theorem Parted.offline_notMem (h : m.Parted) (ha : a ∈ m.iThreatOfflineContainer) :
    a ∉ m.iThreatContainer := by
  intro hon
  have hflag := h.online a hon
  rw [h.offline a ha] at hflag
  cases hflag

theorem Parted.mem_of_online (h : m.Parted) (ha : m.Has a) (hon : (m.reference a).iOnline = true) :
    a ∈ m.iThreatContainer := by
  refine ha.resolve_right fun hoff => ?_
  rw [h.offline a hoff] at hon
  cases hon

theorem Parted.mem_of_offline (h : m.Parted) (ha : m.Has a)
    (hoff : (m.reference a).iOnline = false) : a ∈ m.iThreatOfflineContainer := by
  refine ha.resolve_left fun hon => ?_
  rw [h.online a hon] at hoff
  cases hoff

/-! ## Changes that do not matter -/

/-- Nothing is written but what the lists do not depend on. -/
structure Same (m m' : ThreatManager τ) : Prop where
  guid : ∀ a, (m'.reference a).iUnitGuid = (m.reference a).iUnitGuid
  flag : ∀ a, (m'.reference a).iOnline = (m.reference a).iOnline
  online : m'.iThreatContainer = m.iThreatContainer
  offline : m'.iThreatOfflineContainer = m.iThreatOfflineContainer
  victim : m'.iCurrentVictim = m.iCurrentVictim
  allocated : m'.allocated = m.allocated
  linked : ∀ a, (m.reference a).iRefTo ≠ none → (m'.reference a).iRefTo ≠ none

theorem Same.refl (m : ThreatManager τ) : Same m m :=
  ⟨fun _ => rfl, fun _ => rfl, rfl, rfl, rfl, rfl, fun _ h => h⟩

theorem Same.trans {m'' : ThreatManager τ} (h : Same m m') (h' : Same m' m'') : Same m m'' :=
  ⟨fun a => (h'.guid a).trans (h.guid a), fun a => (h'.flag a).trans (h.flag a),
    h'.online.trans h.online, h'.offline.trans h.offline, h'.victim.trans h.victim,
    h'.allocated.trans h.allocated, fun a ha => h'.linked a (h.linked a ha)⟩

theorem Same.references (h : Same m m') : m'.references = m.references := by
  rw [ThreatManager.references, ThreatManager.references, h.online, h.offline]

theorem Same.keeps (h : Same m m') (hm : m.Parted) : Keeps m m' := by
  refine ⟨⟨?_, ?_, ?_, ?_, ?_, ?_⟩, fun a ha => ?_⟩
  · simp only [h.references, h.guid]
    exact hm.single
  · rw [h.online]
    exact fun a ha => (h.flag a).trans (hm.online a ha)
  · rw [h.offline]
    exact fun a ha => (h.flag a).trans (hm.offline a ha)
  · rw [h.online, h.victim]
    exact hm.victim
  · rw [h.references, h.allocated]
    exact hm.fresh
  · rw [h.references]
    exact fun a ha => h.linked a (hm.linked a ha)
  · rw [has_iff, h.references, ← has_iff]
    exact ha

theorem same_modify {f : HostileReference τ → HostileReference τ}
    (hguid : ∀ r, (f r).iUnitGuid = r.iUnitGuid) (hflag : ∀ r, (f r).iOnline = r.iOnline)
    (hlink : ∀ r, r.iRefTo ≠ none → (f r).iRefTo ≠ none) : Same m (m.modify a f) := by
  refine ⟨fun b => ?_, fun b => ?_, rfl, rfl, rfl, rfl, fun b => ?_⟩
  · by_cases hb : b = a
    · simp [modify, hb, hguid]
    · simp [modify, hb]
  · by_cases hb : b = a
    · simp [modify, hb, hflag]
    · simp [modify, hb]
  · by_cases hb : b = a
    · simp only [modify, if_pos hb]
      exact hlink _
    · simp only [modify, if_neg hb]
      exact fun h => h

theorem same_threatChange {fValue : τ} :
    Same m (m.processThreatEvent t a (.threatChange fValue)) := by
  rw [processThreatEvent]
  split_ifs
  · exact ⟨fun _ => rfl, fun _ => rfl, rfl, rfl, rfl, rfl, fun _ h => h⟩
  · exact .refl m

theorem same_setAccessibleState {isAccessible : Bool} :
    Same m (m.setAccessibleState t a isAccessible) := by
  unfold setAccessibleState
  split_ifs
  · exact same_modify (f := fun r => { r with iAccessible := isAccessible }) (fun _ => rfl)
      (fun _ => rfl) fun _ h => h
  · exact .refl m

theorem same_relink : Same m (m.relink w a) := by
  unfold relink
  split_ifs
  · exact same_modify (fun _ => rfl) (fun _ => rfl) fun _ _ => Option.some_ne_none _
  · exact .refl m

/-! ## References -/

theorem mem_removed {b : ℕ} {l : List ℕ} : b ∈ removed a l ↔ b ∈ l ∧ b ≠ a := by
  simp [removed]

theorem perm_removed {l : List ℕ} (hl : l.Nodup) (ha : a ∈ l) : (a :: removed a l).Perm l := by
  have herase : removed a l = l.erase a := by
    rw [removed, hl.erase_eq_filter]
    exact List.filter_congr fun b _ => by by_cases hb : b = a <;> simp [hb]
  rw [herase]
  exact (List.perm_cons_erase ha).symm

variable (isOnline : Bool) (b : ℕ)

theorem flag_modify :
    ((m.modify a fun r => { r with iOnline := isOnline }).reference b).iOnline =
      if b = a then isOnline else (m.reference b).iOnline := by
  by_cases hb : b = a
  · simp [modify, hb]
  · simp [modify, hb]

theorem guid_modify :
    ((m.modify a fun r => { r with iOnline := isOnline }).reference b).iUnitGuid =
      (m.reference b).iUnitGuid := by
  by_cases hb : b = a
  · simp [modify, hb]
  · simp [modify, hb]

theorem link_modify :
    ((m.modify a fun r => { r with iOnline := isOnline }).reference b).iRefTo =
      (m.reference b).iRefTo := by
  by_cases hb : b = a
  · simp [modify, hb]
  · simp [modify, hb]

theorem dropVictim_eq :
    (m.dropVictim a).iCurrentVictim =
        (if m.iCurrentVictim = some a then none else m.iCurrentVictim) ∧
      (m.dropVictim a).reference = m.reference ∧
      (m.dropVictim a).iThreatContainer = m.iThreatContainer ∧
      (m.dropVictim a).iThreatOfflineContainer = m.iThreatOfflineContainer ∧
      (m.dropVictim a).allocated = m.allocated := by
  unfold dropVictim
  split_ifs with hvictim
  · exact ⟨rfl, rfl, rfl, rfl, rfl⟩
  · exact ⟨rfl, rfl, rfl, rfl, rfl⟩

/-- **A reference goes offline.** -/
theorem goOffline_keeps (hm : m.Parted) (ha : a ∈ m.iThreatContainer) {n : ThreatManager τ}
    (hn : Same (m.modify a fun r => { r with iOnline := false }) n) :
    Keeps m (n.processThreatEvent t a .onlineStatus) := by
  have hflag : ∀ b, (n.reference b).iOnline = if b = a then false else (m.reference b).iOnline :=
    fun b => (hn.flag b).trans (flag_modify false b)
  have hguid : ∀ b, (n.reference b).iUnitGuid = (m.reference b).iUnitGuid :=
    fun b => (hn.guid b).trans (guid_modify false b)
  have honline : n.iThreatContainer = m.iThreatContainer := hn.online
  have hoffline : n.iThreatOfflineContainer = m.iThreatOfflineContainer := hn.offline
  obtain ⟨hvictim, href, hon, hoff, halloc⟩ := dropVictim_eq (m := n) (a := a)
  have hnodup : m.iThreatContainer.Nodup := hm.nodup.of_append_left
  have hperm : (removed a m.iThreatContainer ++ (m.iThreatOfflineContainer ++ [a])).Perm
      m.references := by
    rw [← List.append_assoc]
    refine (List.perm_append_singleton a _).trans ?_
    rw [← List.cons_append]
    exact (perm_removed hnodup ha).append_right _
  rw [processThreatEvent, if_pos (by rw [hflag, if_pos rfl]; rfl)]
  dsimp only
  rw [hon, hoff, honline, hoffline]
  refine ⟨⟨?_, ?_, ?_, ?_, ?_, ?_⟩, fun b hb => ?_⟩
  · change ((removed a m.iThreatContainer ++ (m.iThreatOfflineContainer ++ [a])).map _).Nodup
    simp only [href, hguid]
    exact (hperm.map _).nodup_iff.mpr hm.single
  · intro b hb
    obtain ⟨hb, hne⟩ := mem_removed.mp hb
    simp only [href]
    rw [hflag, if_neg hne]
    exact hm.online b hb
  · intro b hb
    simp only [href]
    rw [hflag]
    split_ifs with hba
    · rfl
    · refine hm.offline b ((List.mem_append.mp hb).resolve_right fun hb => hba ?_)
      exact List.mem_singleton.mp hb
  · intro b hb
    change (n.dropVictim a).iCurrentVictim = some b at hb
    rw [hvictim] at hb
    split_ifs at hb with hcurrent
    have hb' : m.iCurrentVictim = some b := hn.victim.symm.trans hb
    refine mem_removed.mpr ⟨hm.victim b hb', ?_⟩
    rintro rfl
    exact hcurrent hb
  · intro b hb
    change b < (n.dropVictim a).allocated
    rw [halloc, hn.allocated]
    exact hm.fresh b (hperm.mem_iff.mp hb)
  · intro b hb
    simp only [href]
    exact hn.linked b ((link_modify false b).trans_ne (hm.linked b (hperm.mem_iff.mp hb)))
  · exact has_iff.mpr (hperm.mem_iff.mpr (has_iff.mp hb))

/-- **A reference comes online.** -/
theorem comeOnline_keeps (hm : m.Parted) (ha : a ∈ m.iThreatOfflineContainer) {n : ThreatManager τ}
    (hn : Same (m.modify a fun r => { r with iOnline := true }) n) :
    Keeps m (n.processThreatEvent t a .onlineStatus) := by
  have hflag : ∀ b, (n.reference b).iOnline = if b = a then true else (m.reference b).iOnline :=
    fun b => (hn.flag b).trans (flag_modify true b)
  have hguid : ∀ b, (n.reference b).iUnitGuid = (m.reference b).iUnitGuid :=
    fun b => (hn.guid b).trans (guid_modify true b)
  have honline : n.iThreatContainer = m.iThreatContainer := hn.online
  have hoffline : n.iThreatOfflineContainer = m.iThreatOfflineContainer := hn.offline
  have hnodup : m.iThreatOfflineContainer.Nodup := hm.nodup.of_append_right
  have hperm : (m.iThreatContainer ++ [a] ++ removed a m.iThreatOfflineContainer).Perm
      m.references := by
    rw [List.append_assoc]
    exact (perm_removed hnodup ha).append_left _
  rw [processThreatEvent, if_neg (by rw [hflag, if_pos rfl]; decide)]
  rw [honline, hoffline]
  refine ⟨⟨?_, ?_, ?_, ?_, ?_, ?_⟩, fun b hb => ?_⟩
  · change ((m.iThreatContainer ++ [a] ++ removed a m.iThreatOfflineContainer).map _).Nodup
    simp only [hguid]
    exact (hperm.map _).nodup_iff.mpr hm.single
  · intro b hb
    change (n.reference b).iOnline = true
    rw [hflag]
    split_ifs with hba
    · rfl
    · refine hm.online b ((List.mem_append.mp hb).resolve_right fun hb => hba ?_)
      exact List.mem_singleton.mp hb
  · intro b hb
    obtain ⟨hb, hne⟩ := mem_removed.mp hb
    change (n.reference b).iOnline = false
    rw [hflag, if_neg hne]
    exact hm.offline b hb
  · intro b hb
    have hb' : m.iCurrentVictim = some b := hn.victim.symm.trans hb
    exact List.mem_append_left _ (hm.victim b hb')
  · intro b hb
    change b < n.allocated
    rw [hn.allocated]
    exact hm.fresh b (hperm.mem_iff.mp hb)
  · intro b hb
    exact hn.linked b ((link_modify true b).trans_ne (hm.linked b (hperm.mem_iff.mp hb)))
  · exact has_iff.mpr (hperm.mem_iff.mpr (has_iff.mp hb))

/-- **A reference that changes its state goes from one list to the other.** -/
theorem setOnlineOfflineState_keeps (hm : m.Parted) (ha : m.Has a) (isOnline : Bool) :
    Keeps m (m.setOnlineOfflineState t a isOnline) := by
  unfold setOnlineOfflineState
  by_cases hchange : (m.reference a).iOnline ≠ isOnline
  · rw [if_pos hchange]
    cases isOnline with
    | true =>
      have hoff := hm.mem_of_offline ha (Bool.eq_false_iff.mpr hchange)
      exact comeOnline_keeps hm hoff (.refl _)
    | false =>
      have hon := hm.mem_of_online ha (Bool.not_eq_false _ ▸ hchange)
      exact goOffline_keeps hm hon same_setAccessibleState
  · rw [if_neg hchange]
    exact hm.self

theorem reference_processThreatEvent {event : ThreatEvent τ} :
    (m.processThreatEvent t a event).reference = m.reference := by
  have hdrop : (m.dropVictim a).reference = m.reference := dropVictim_eq.2.1
  cases event with
  | onlineStatus =>
    rw [processThreatEvent]
    split_ifs
    · exact hdrop
    · rfl
  | threatChange fValue =>
    rw [processThreatEvent]
    split_ifs <;> rfl
  | removeFromList =>
    rw [processThreatEvent]
    split_ifs
    · exact hdrop
    · exact hdrop
  | accessibleStatus => rfl

theorem flag_setOnlineOfflineState (isOnline : Bool) :
    ((m.setOnlineOfflineState t a isOnline).reference a).iOnline = isOnline := by
  unfold setOnlineOfflineState
  by_cases hchange : (m.reference a).iOnline ≠ isOnline
  · rw [if_pos hchange, reference_processThreatEvent]
    have hflag := flag_modify (m := m) (a := a) isOnline a
    rw [if_pos rfl] at hflag
    split_ifs
    · exact (same_setAccessibleState.flag a).trans hflag
    · exact hflag
  · rw [if_neg hchange]
    exact not_not.mp hchange

theorem updateOnlineStatus_keeps (hm : m.Parted) (ha : m.Has a) :
    Keeps m (m.updateOnlineStatus t w a) := by
  have hsame : Same m ((m.relink w a).setAccessibleState t a
      (onlineStatus w ((m.relink w a).reference a).iRefTo).2) :=
    same_relink.trans same_setAccessibleState
  have hkeeps := hsame.keeps hm
  exact hkeeps.trans (setOnlineOfflineState_keeps hkeeps.parted (hkeeps.has a ha) _)

theorem removeReference_parted (hm : m.Parted) (ha : m.Has a) :
    (m.removeReference t a).Parted := by
  -- it is offline by then
  have hkeeps := setOnlineOfflineState_keeps (t := t) hm ha false
  have hflag := flag_setOnlineOfflineState (t := t) (m := m) (a := a) false
  unfold removeReference
  generalize m.setOnlineOfflineState t a false = n at hkeeps hflag ⊢
  have hn := hkeeps.parted
  have hoff := hn.mem_of_offline (hkeeps.has a ha) hflag
  have hvictim : n.iCurrentVictim ≠ some a := fun heq =>
    hn.offline_notMem hoff (hn.victim a heq)
  generalize hp : n.modify a (fun r => { r with iRefTo := none }) = p
  have hguid : ∀ b, (p.reference b).iUnitGuid = (n.reference b).iUnitGuid := by
    intro b
    by_cases hb : b = a <;> simp [← hp, modify, hb]
  have hsame : ∀ b, b ≠ a → p.reference b = n.reference b := fun b hb => by simp [← hp, modify, hb]
  have hflag' : (p.reference a).iOnline = false := by simpa [← hp, modify] using hflag
  have hdrop : p.dropVictim a = p := if_neg (hp ▸ hvictim)
  have hon : p.iThreatContainer = n.iThreatContainer := by rw [← hp]; rfl
  have hoffline : p.iThreatOfflineContainer = n.iThreatOfflineContainer := by rw [← hp]; rfl
  have hlist : p.iCurrentVictim = n.iCurrentVictim ∧ p.allocated = n.allocated := by
    rw [← hp]
    exact ⟨rfl, rfl⟩
  have hne : ∀ b ∈ n.iThreatContainer, b ≠ a := fun b hb heq => hn.offline_notMem hoff (heq ▸ hb)
  dsimp only
  rw [hp, processThreatEvent, hdrop, if_neg (by rw [hflag']; decide), hoffline]
  have hsub : (n.iThreatContainer ++ removed a n.iThreatOfflineContainer).Sublist n.references :=
    List.filter_sublist.append_left _
  refine ⟨?_, fun b hb => ?_, fun b hb => ?_, fun b hb => ?_, fun b hb => ?_, fun b hb => ?_⟩
  · simp only [references, hguid, hon]
    exact hn.single.sublist (hsub.map _)
  · rw [hon] at hb
    exact (congrArg HostileReference.iOnline (hsame b (hne b hb))).trans (hn.online b hb)
  · obtain ⟨hb, hba⟩ := mem_removed.mp hb
    exact (congrArg HostileReference.iOnline (hsame b hba)).trans (hn.offline b hb)
  · rw [hlist.1] at hb
    rw [hon]
    exact hn.victim b hb
  · rw [hlist.2]
    exact hn.fresh b (hsub.subset (hon ▸ hb))
  · have hb' := hon ▸ hb
    have hba : b ≠ a := by
      rcases List.mem_append.mp hb' with hb | hb
      · exact hne b hb
      · exact (mem_removed.mp hb).2
    rw [hsame b hba]
    exact hn.linked b (hsub.subset hb')

/-! ## Threat -/

variable {addOwner : ThreatManager τ → ℕ → Option (ThreatManager τ)} {victim : ℕ} {threat : τ}

def OwnerKeeps (addOwner : ThreatManager τ → ℕ → Option (ThreatManager τ)) : Prop :=
  ∀ m m' owner, m.Parted → addOwner m owner = some m' → Keeps m m'

/-- **A reference gets threat.** -/
theorem addThreatTo_keeps (howner : OwnerKeeps addOwner) (hm : m.Parted) (ha : m.Has a)
    (h : m.addThreatTo t w addOwner a threat = some m') : Keeps m m' := by
  unfold addThreatTo at h
  dsimp only at h
  -- the threat is added
  have hsame : Same m (m.modify a fun r => { r with iThreat := t.add r.iThreat threat }) :=
    same_modify (fun _ => rfl) (fun _ => rfl) fun _ h => h
  have hadded := hsame.keeps hm
  generalize m.modify a (fun r => { r with iThreat := t.add r.iThreat threat }) = m₁ at h hadded
  -- the reference may come online
  have hupdated : Keeps m (if (!(m₁.reference a).iOnline) = true then m₁.updateOnlineStatus t w a
      else m₁) := by
    split_ifs
    · exact hadded.trans (updateOnlineStatus_keeps hadded.parted (hadded.has a ha))
    · exact hadded
  generalize (if (!(m₁.reference a).iOnline) = true then m₁.updateOnlineStatus t w a else m₁) = m₂
    at h hupdated
  -- the manager is told
  have htold : Keeps m (if t.ne threat t.zero = true then
      m₂.processThreatEvent t a (.threatChange threat) else m₂) := by
    split_ifs
    · exact hupdated.trans (same_threatChange.keeps hupdated.parted)
    · exact hupdated
  generalize (if t.ne threat t.zero = true then m₂.processThreatEvent t a (.threatChange threat)
    else m₂) = m₃ at h htold
  have hstop : some m₃ = some m' → Keeps m m' := by
    intro heq
    cases heq
    exact htold
  split at h
  · exact hstop h
  · split_ifs at h
    · split at h
      · exact hstop h
      · split_ifs at h
        · exact htold.trans (howner m₃ m' _ htold.parted h)
        · exact hstop h
    · exact hstop h

theorem guid_of_getReferenceByTarget {l : List ℕ} (h : m.getReferenceByTarget l victim = some a) :
    a ∈ l :=
  List.mem_of_find?_eq_some h

theorem newReference_keeps (hm : m.Parted)
    (honline : m.getReferenceByTarget m.iThreatContainer victim = none)
    (hoffline : m.getReferenceByTarget m.iThreatOfflineContainer victim = none) :
    Keeps m (m.newReference t victim) := by
  have hnone : ∀ a ∈ m.references, (m.reference a).iUnitGuid ≠ victim := by
    intro a ha
    rcases List.mem_append.mp ha with ha | ha
    · simpa using List.find?_eq_none.mp honline a ha
    · simpa using List.find?_eq_none.mp hoffline a ha
  have hold : ∀ a ∈ m.references, (m.newReference t victim).reference a = m.reference a :=
    fun a ha => if_neg (Nat.ne_of_lt (hm.fresh a ha))
  have hnew : (m.newReference t victim).reference m.allocated =
      ⟨t.zero, victim, true, true, some victim⟩ := if_pos rfl
  have hperm : (m.newReference t victim).references.Perm (m.allocated :: m.references) := by
    change (m.iThreatContainer ++ [m.allocated] ++ m.iThreatOfflineContainer).Perm _
    rw [List.append_assoc, List.singleton_append]
    exact List.perm_middle
  refine ⟨⟨?_, ?_, ?_, ?_, ?_, ?_⟩, fun b hb => ?_⟩
  · refine (hperm.map _).nodup_iff.mpr ?_
    rw [List.map_cons, List.nodup_cons, hnew]
    have hmap : m.references.map (fun a => ((m.newReference t victim).reference a).iUnitGuid) =
        m.references.map fun a => (m.reference a).iUnitGuid :=
      List.map_congr_left fun a ha => by rw [hold a ha]
    rw [hmap]
    refine ⟨fun hmem => ?_, hm.single⟩
    obtain ⟨a, ha, heq⟩ := List.mem_map.mp hmem
    exact hnone a ha heq
  · intro b hb
    rcases List.mem_append.mp hb with hb | hb
    · rw [hold b (List.mem_append_left _ hb)]
      exact hm.online b hb
    · obtain rfl := List.mem_singleton.mp hb
      rw [hnew]
  · intro b hb
    rw [hold b (List.mem_append_right _ hb)]
    exact hm.offline b hb
  · exact fun b hb => List.mem_append_left _ (hm.victim b hb)
  · intro b hb
    rcases List.mem_cons.mp (hperm.mem_iff.mp hb) with rfl | hb
    · exact Nat.lt_succ_self _
    · exact Nat.lt_succ_of_lt (hm.fresh b hb)
  · intro b hb
    rcases List.mem_cons.mp (hperm.mem_iff.mp hb) with rfl | hb
    · rw [hnew]
      exact Option.some_ne_none _
    · rw [hold b hb]
      exact hm.linked b hb
  · exact has_iff.mpr (hperm.mem_iff.mpr (List.mem_cons_of_mem _ (has_iff.mp hb)))

/-- **`_addThreat`** -/
theorem addThreat'_keeps (howner : OwnerKeeps addOwner) (hm : m.Parted)
    (h : m.addThreat' t w addOwner victim threat = some m') : Keeps m m' := by
  unfold addThreat' at h
  cases honline : m.getReferenceByTarget m.iThreatContainer victim with
  | some a =>
    rw [honline] at h
    exact addThreatTo_keeps howner hm (.inl (guid_of_getReferenceByTarget honline)) h
  | none =>
    cases hoffline : m.getReferenceByTarget m.iThreatOfflineContainer victim with
    | some a =>
      simp only [honline, hoffline] at h
      exact addThreatTo_keeps howner hm (.inr (guid_of_getReferenceByTarget hoffline)) h
    | none =>
      simp only [honline, hoffline] at h
      obtain ⟨n, hn, rfl⟩ := Option.map_eq_some_iff.mp h
      have hnew := newReference_keeps (t := t) hm honline hoffline
      have ha : (m.newReference t victim).Has m.allocated :=
        .inl (List.mem_append_right _ (List.mem_singleton_self _))
      have hadded := addThreatTo_keeps howner hnew.parted ha hn
      split_ifs
      · exact (hnew.trans hadded).trans
          (setOnlineOfflineState_keeps hadded.parted (hadded.has _ ha) false)
      · exact hnew.trans hadded

theorem doAddThreat_keeps (howner : OwnerKeeps addOwner) (hm : m.Parted)
    (h : m.doAddThreat t w addOwner victim threat = some m') : Keeps m m' := by
  unfold doAddThreat at h
  dsimp only at h
  split_ifs at h
  · split at h
    · exact addThreat'_keeps howner hm h
    · obtain ⟨n, hn, hn'⟩ := Option.bind_eq_some_iff.mp h
      have hkeeps := addThreat'_keeps howner hm hn
      exact hkeeps.trans (addThreat'_keeps howner hkeeps.parted hn')
  · exact addThreat'_keeps howner hm h

/-- **A unit gets threat**, and its owners get references; by induction on the depth of the
owners. -/
theorem addThreat_keeps (depth : ℕ) {schoolMask : ℕ} {threatSpell : Option ℕ} (hm : m.Parted)
    (h : addThreat t w depth m victim threat schoolMask threatSpell = some m') : Keeps m m' := by
  induction depth generalizing m m' victim threat schoolMask threatSpell with
  | zero => cases h
  | succ depth ih =>
    rw [addThreat] at h
    split_ifs at h
    · cases h
      exact hm.self
    · exact doAddThreat_keeps (fun _ _ _ hm h => ih hm h) hm h

/-! ## The current victim -/

theorem update_parted (hm : m.Parted) : (m.update t).Parted := by
  have hperm : (m.update t).iThreatContainer.Perm m.iThreatContainer := by
    unfold update
    split_ifs
    · exact List.mergeSort_perm _ _
    · exact .refl _
  have hreferences : (m.update t).references.Perm m.references := hperm.append_right _
  exact ⟨(hreferences.map _).nodup_iff.mpr hm.single,
    fun b hb => hm.online b (hperm.mem_iff.mp hb), hm.offline,
    fun b hb => hperm.mem_iff.mpr (hm.victim b hb),
    fun b hb => hm.fresh b (hreferences.mem_iff.mp hb),
    fun b hb => hm.linked b (hreferences.mem_iff.mp hb)⟩

theorem scan_spec {noPriorityTargetFound : Bool} {currentVictim : Option ℕ} {l : List ℕ} :
    (∀ a, m.scan t w noPriorityTargetFound currentVictim l = .found a →
      a ∈ l ∨ currentVictim = some a) ∧
    ∀ v, m.scan t w noPriorityTargetFound currentVictim l = .again v →
      v = none ∨ v = currentVictim := by
  induction l generalizing currentVictim with
  | nil => exact ⟨(fun a h => by cases h), fun v h => by cases h⟩
  | cons b rest ih =>
    -- the rest of the list, with the current victim or without one
    have hrest : ∀ u, (u = none ∨ u = currentVictim) →
        (∀ a, m.scan t w noPriorityTargetFound u rest = .found a →
          a ∈ b :: rest ∨ currentVictim = some a) ∧
        ∀ v, m.scan t w noPriorityTargetFound u rest = .again v →
          v = none ∨ v = currentVictim := by
      intro u hu
      refine ⟨fun a h => ?_, fun v h => ?_⟩
      · rcases ih.1 a h with hmem | heq
        · exact .inl (List.mem_cons_of_mem _ hmem)
        · rcases hu with rfl | rfl
          · cases heq
          · exact .inr heq
      · rcases ih.2 v h with hnone | heq
        · exact .inl hnone
        · rcases hu with rfl | rfl
          · exact .inl heq
          · exact .inr heq
    have hself : ∀ a, Selection.found b = .found a → a ∈ b :: rest ∨ currentVictim = some a := by
      intro a h
      cases h
      exact .inl List.mem_cons_self
    rw [scan]
    cases (m.reference b).iRefTo with
    | none => exact ⟨(fun a h => by cases h), fun v h => by cases h⟩
    | some target =>
      dsimp only
      split_ifs with hsecond hmore hcurrent hattack
      · exact hrest none (.inl rfl)
      · exact hrest currentVictim (.inr rfl)
      · refine ⟨(fun a h => by cases h), fun v h => ?_⟩
        cases h
        exact .inr rfl
      · cases currentVictim with
        | none => exact ⟨hself, fun v h => by cases h⟩
        | some v =>
          dsimp only
          split_ifs
          · refine ⟨fun a h => ?_, fun v h => by cases h⟩
            cases h
            exact .inr rfl
          · exact ⟨hself, fun v h => by cases h⟩
          · exact ⟨hself, fun v h => by cases h⟩
          · exact hrest (some v) (.inr rfl)
      · exact hrest currentVictim (.inr rfl)

theorem selectNextVictim_mem (hm : m.Parted) {victim : Option ℕ}
    (h : m.selectNextVictim t w m.iCurrentVictim = some victim) :
    ∀ a, victim = some a → a ∈ m.iThreatContainer := by
  have hfound : ∀ {flag : Bool} {u : Option ℕ} {a : ℕ}, (u = none ∨ u = m.iCurrentVictim) →
      m.scan t w flag u m.iThreatContainer = .found a → a ∈ m.iThreatContainer := by
    intro flag u a hu hscan
    rcases scan_spec.1 a hscan with hmem | heq
    · exact hmem
    · rcases hu with rfl | rfl
      · cases heq
      · exact hm.victim a heq
  intro a ha
  subst ha
  unfold selectNextVictim at h
  cases hscan : m.scan t w false m.iCurrentVictim m.iThreatContainer with
  | found b =>
    rw [hscan] at h
    cases Option.some.inj h
    exact hfound (.inr rfl) hscan
  | none =>
    rw [hscan] at h
    cases h
  | assertion =>
    rw [hscan] at h
    cases h
  | again u =>
    simp only [hscan] at h
    have hu := scan_spec.2 u hscan
    split at h
    · rename_i b hagain
      cases Option.some.inj h
      exact hfound hu hagain
    · cases h
    · cases h

theorem Parted.setCurrentVictim (hm : m.Parted) {victim : Option ℕ}
    (h : ∀ a, victim = some a → a ∈ m.iThreatContainer) : (m.setCurrentVictim victim).Parted :=
  ⟨hm.single, hm.online, hm.offline, h, hm.fresh, hm.linked⟩

end ThreatManager

/-! ## Runs -/

variable {τ : Type}

open ThreatManager

theorem step_parted {t : Threat τ} {m m' : ThreatManager τ} {op : World τ × Op τ} (hm : m.Parted)
    (h : step t m op = some m') : m'.Parted := by
  obtain ⟨w, op⟩ := op
  cases op with
  | addThreat depth victim threat schoolMask threatSpell =>
    exact (addThreat_keeps depth hm h).parted
  | addThreatTo depth a modThreat =>
    simp only [step] at h
    split_ifs at h with ha
    · exact (addThreatTo_keeps (fun _ _ _ hm h => addThreat_keeps depth hm h) hm ha h).parted
    · exact Option.some.inj h ▸ hm
  | setOnlineOfflineState a isOnline =>
    cases h
    split_ifs with ha
    · exact (setOnlineOfflineState_keeps hm ha isOnline).parted
    · exact hm
  | updateOnlineStatus a =>
    cases h
    split_ifs with ha
    · exact (updateOnlineStatus_keeps hm ha).parted
    · exact hm
  | removeReference a =>
    cases h
    split_ifs with ha
    · exact removeReference_parted hm ha
    · exact hm
  | clearReferences =>
    cases h
    exact parted_of_empty rfl rfl rfl
  | getHostilTarget =>
    obtain ⟨victim, hvictim, rfl⟩ := Option.map_eq_some_iff.mp h
    exact (update_parted hm).setCurrentVictim (selectNextVictim_mem (update_parted hm) hvictim)
  | forceVictim victim =>
    simp only [step] at h
    split at h
    · exact Option.some.inj h ▸ hm
    · rename_i a ha
      cases h
      refine hm.setCurrentVictim fun b hb => ?_
      cases hb
      exact guid_of_getReferenceByTarget ha

/-- **Each reference is in one list**: a unit has one reference at most over both lists; a reference
is in the online list exactly if its flag says so; and the current victim is in the online list. -/
def OneListEach (m : ThreatManager τ) : Prop :=
  (∀ guid, (m.iThreatContainer ++ m.iThreatOfflineContainer).countP
    (fun a => (m.reference a).iUnitGuid = guid) ≤ 1) ∧
  (∀ a ∈ m.iThreatContainer ++ m.iThreatOfflineContainer,
    (a ∈ m.iThreatContainer ↔ (m.reference a).iOnline = true)) ∧
  ∀ a, m.iCurrentVictim = some a → a ∈ m.iThreatContainer

/-- **Each reference is in one list**, in every run of a manager. -/
theorem oneListEach_of_run (t : Threat τ) (ops : List (World τ × Op τ)) (m : ThreatManager τ)
    (h : Commons.run (Commons.stepOption (step t)) (some (.new t.zero)) ops = some m) :
    OneListEach m := by
  have hnew : (ThreatManager.new t.zero).Parted := parted_of_empty rfl rfl rfl
  have hm : m.Parted :=
    Commons.stepOption_invariant Parted (fun _ _ _ hm h => step_parted hm h) hnew m h
  refine ⟨fun guid => ?_, fun a ha => ⟨hm.online a, fun hflag => ?_⟩, hm.victim⟩
  · have hcount := List.nodup_iff_count_le_one.mp hm.single guid
    rw [List.count, List.countP_map] at hcount
    refine le_of_eq_of_le (List.countP_congr fun a _ => ?_) hcount
    simp
  · exact hm.mem_of_online (List.mem_append.mp ha) hflag

/-- Threat in whole numbers. -/
def wholeThreat : Threat ℤ where
  zero := 0
  add := (· + ·)
  sub := (· - ·)
  percent threat n := threat * n / 100
  times11 threat := 11 * threat / 10
  times13 threat := 13 * threat / 10
  lt a b := decide (a < b)
  le a b := decide (a ≤ b)
  ne a b := decide (a ≠ b)

def playerAndPet : World ℤ where
  owner := 1
  isGameMaster _ := false
  isAlive _ := true
  isInMap _ := true
  inSamePhase _ := true
  isInFlight _ := false
  isInAccessiblePlace _ := true
  isWithinCombatRange _ := true
  noThreat _ := false
  calcThreat _ threat _ _ := threat
  reducedThreatPercent _ := 0
  misdirectionTarget _ := none
  glyphOfVigilance _ := 0
  charmerOrOwner unit := if unit = 3 then some 2 else none
  isFound _ := true
  isSecondChoice _ := false
  canCreatureAttack _ := true
  isWithinMeleeRange _ := true

/-- The pet gets threat, which brings the player to the list; goes offline; the player becomes the
current victim; and the pet gets threat once more, which brings it back. -/
def petFight : List (World ℤ × Op ℤ) :=
  [(playerAndPet, .addThreat 2 3 10 1 none), (playerAndPet, .setOnlineOfflineState 0 false),
    (playerAndPet, .getHostilTarget), (playerAndPet, .addThreat 2 3 20 1 none)]

theorem petFight_isSome : (Commons.run (Commons.stepOption (step wholeThreat))
    (some (.new wholeThreat.zero)) petFight).isSome = true := by
  decide +kernel

theorem oneListEach_of_run_petFight :
    OneListEach ((Commons.run (Commons.stepOption (step wholeThreat))
      (some (.new wholeThreat.zero)) petFight).get petFight_isSome) :=
  oneListEach_of_run wholeThreat petFight _ (Option.some_get petFight_isSome).symm

end TeraCore.Combat
