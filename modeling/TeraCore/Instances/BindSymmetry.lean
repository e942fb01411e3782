import TeraCore.Commons.Run
import TeraCore.Instances.Binds

/-!
# Instances: a bind and the list of its save agree

A holder is bound to a save exactly when the list of the save has the holder, and then once.  Both
sides are changed together by every bind and unbind, and a save that is destroyed because its lists
got empty is one that nobody is bound to any more.

A reset unbinds the first of a list by the map and the difficulty of the save.  The bind that is
found there is one to this very save, so the list gets shorter, and the loop ends.

## Main results

* `BindWorld.removeHolder_spec`: what a removal does, which may destroy the save
* `BindWorld.unbindAll_spec`: the loops of a reset end
* `BindWorld.symmetric_after`: binds and lists agree after every run
-/

namespace TeraCore

open Commons OrderedMap

namespace BoundSave

variable (save : BoundSave) (holder holder' : Holder)

theorem count_add : (save.add holder).count holder' =
    save.count holder' + if holder' = holder then 1 else 0 := by
  by_cases h : holder' = holder
  · subst h
    cases holder' <;> simp [add, count]
  · rw [if_neg h]
    cases holder <;> cases holder' <;> simp_all [add, count, eq_comm]

theorem count_remove : (save.remove holder).count holder' =
    if holder' = holder then 0 else save.count holder' := by
  cases holder with
  | player guid =>
    cases holder' with
    | player guid' =>
      by_cases h : guid' = guid
      · simp [remove, count, h, List.count_eq_zero]
      · simp [remove, count, h, List.count_filter]
    | group id => rfl
  | group id =>
    cases holder' with
    | player guid => rfl
    | group id' =>
      by_cases h : id' = id
      · simp [remove, count, h, List.count_eq_zero]
      · simp [remove, count, h, List.count_filter]

theorem isEmpty_iff : save.isEmpty = true ↔ ∀ holder, save.count holder = 0 := by
  rw [isEmpty, Bool.and_eq_true, List.isEmpty_iff, List.isEmpty_iff]
  constructor
  · rintro ⟨hplayers, hgroups⟩ (guid | id)
    · rw [count, hplayers, List.count_nil]
    · rw [count, hgroups, List.count_nil]
  · intro h
    exact ⟨List.eq_nil_iff_forall_not_mem.mpr fun guid => List.count_eq_zero.mp (h (.player guid)),
      List.eq_nil_iff_forall_not_mem.mpr fun id => List.count_eq_zero.mp (h (.group id))⟩

theorem add_fields : (save.add holder).mapid = save.mapid ∧
    (save.add holder).difficulty = save.difficulty ∧
    (save.add holder).instanceId = save.instanceId := by
  cases holder <;> exact ⟨rfl, rfl, rfl⟩

theorem remove_fields : (save.remove holder).mapid = save.mapid ∧
    (save.remove holder).difficulty = save.difficulty ∧
    (save.remove holder).instanceId = save.instanceId := by
  cases holder <;> exact ⟨rfl, rfl, rfl⟩

end BoundSave

namespace BindWorld

/-- The save that a holder is bound to. -/
def boundTo (w : BindWorld) (holder : Holder) (difficulty mapid : ℕ) : Option ℕ :=
  ((w.boundInstances holder difficulty).find? mapid).map InstanceBind.save

/-- **Binds and lists agree**: a bind is to a save in memory, of its difficulty and map; and the
list of a save has a holder once if the holder is bound to it there, and else not. -/
structure Symmetric (w : BindWorld) : Prop where
  bound : ∀ holder difficulty mapid address, w.boundTo holder difficulty mapid = some address →
    ∃ save, w.saves.find? address = some save ∧ save.difficulty = difficulty ∧ save.mapid = mapid
  count : ∀ address save, w.saves.find? address = some save → ∀ holder, save.count holder =
    if w.boundTo holder save.difficulty save.mapid = some address then 1 else 0

/-- The saves in memory are those that are registered, each under its id. -/
structure Registered (w : BindWorld) : Prop where
  registered : ∀ instanceId address, w.instanceSaveById.find? instanceId = some address ↔
    ∃ save, w.saves.find? address = some save ∧ save.instanceId = instanceId
  fresh : ∀ address save, w.saves.find? address = some save → address < w.nextSave

/-- What every operation preserves. -/
structure Tracked (w : BindWorld) : Prop where
  symmetric : w.Symmetric
  registered : w.Registered

theorem tracked_start (isBGGroup : ℕ → Bool) : (start isBGGroup).Tracked where
  symmetric := by
    constructor
    · intro _ _ _ _ h
      cases h
    · intro _ _ h
      cases h
  registered := by
    constructor
    · refine fun instanceId address => iff_of_false nofun ?_
      rintro ⟨save, hsave, -⟩
      cases hsave
    · intro _ _ h
      cases h

/-! ## One list -/

/-- **What a removal does**: the save is left without the holder, or it is destroyed, which it is
only when nobody else is listed and the lists are not locked. -/
structure Removed (w w' : BindWorld) (address : ℕ) (save : BoundSave) (holder : Holder) : Prop where
  registered : w'.Registered
  bound : w'.boundInstances = w.boundInstances
  lock : w'.lockInstLists = w.lockInstLists
  bg : w'.isBGGroup = w.isBGGroup
  others : ∀ other, other ≠ address → w'.saves.find? other = w.saves.find? other
  self : w'.saves.find? address = some (save.remove holder) ∨
    w'.saves.find? address = none ∧ (save.remove holder).isEmpty = true ∧ w.lockInstLists = false

variable {w w' : BindWorld} {address : ℕ} {save : BoundSave} {holder : Holder}

theorem Registered.setSave (h : w.Registered) {save' : BoundSave}
    (hsave : w.saves.find? address = some save) (hid : save'.instanceId = save.instanceId) :
    (w.setSave address save').Registered := by
  constructor
  · intro instanceId address'
    show w.instanceSaveById.find? instanceId = some address' ↔ _
    rw [h.registered, BindWorld.setSave, find?_set]
    split_ifs with heq
    · subst heq
      rw [hsave]
      simp [hid]
    · rfl
  · intro address' save'' hfound
    rw [BindWorld.setSave, find?_set] at hfound
    split_ifs at hfound with heq
    · exact heq ▸ h.fresh address save hsave
    · exact h.fresh address' save'' hfound

theorem Registered.erase (h : w.Registered)
    (hsave : w.saves.find? address = some save) (hsaves : w'.saves = w.saves.erase address)
    (hids : w'.instanceSaveById = w.instanceSaveById.erase save.instanceId)
    (hnext : w'.nextSave = w.nextSave) : w'.Registered := by
  constructor
  · intro instanceId address'
    have hself := (h.registered save.instanceId address).mpr ⟨save, hsave, rfl⟩
    rw [hids, hsaves, find?_erase, find?_erase]
    by_cases hid : instanceId = save.instanceId
    · -- The id is that of this save only.
      rw [if_pos hid]
      refine iff_of_false (by simp) ?_
      rintro ⟨save', hfound, hid'⟩
      split_ifs at hfound with heq
      have hother := (h.registered instanceId address').mpr ⟨save', hfound, hid'⟩
      rw [hid, hself] at hother
      exact heq (Option.some.inj hother).symm
    · rw [if_neg hid, h.registered]
      split_ifs with heq
      · refine iff_of_false ?_ (by simp)
        rintro ⟨save', hfound, hid'⟩
        rw [heq, hsave] at hfound
        exact hid (hid' ▸ congrArg BoundSave.instanceId (Option.some.inj hfound).symm)
      · rfl
  · intro address' save' hfound
    rw [hsaves, find?_erase] at hfound
    rw [hnext]
    split_ifs at hfound
    exact h.fresh address' save' hfound

theorem removeHolder_spec (h : w.Registered)
    (hsave : w.saves.find? address = some save) (holder : Holder) :
    ∃ w', w.removeHolder address holder = some w' ∧ Removed w w' address save holder := by
  have hid := (save.remove_fields holder).2.2
  have hset := h.setSave hsave hid
  have hfound : (w.setSave address (save.remove holder)).saves.find? address =
      some (save.remove holder) := find?_set_self _ _ _
  have hothers : ∀ other, other ≠ address →
      (w.setSave address (save.remove holder)).saves.find? other = w.saves.find? other :=
    fun other hne => find?_set_of_ne _ _ hne
  rw [removeHolder, hsave]
  dsimp only
  rw [unloadIfEmpty]
  split_ifs with hunload
  · rw [Bool.and_eq_true, Bool.not_eq_true'] at hunload
    rw [removeInstanceSave, (hset.registered _ address).mpr ⟨_, hfound, rfl⟩]
    dsimp only
    rw [destroy, hfound]
    dsimp only
    rw [if_pos hunload.1]
    refine ⟨_, rfl, hset.erase hfound rfl rfl rfl, rfl, rfl, rfl, fun other hne => ?_,
      .inr ⟨?_, hunload⟩⟩
    · exact (find?_erase_of_ne _ hne).trans (hothers other hne)
    · exact find?_erase_self _ _
  · exact ⟨_, rfl, hset, rfl, rfl, rfl, hothers, .inl hfound⟩

/-! ## Unbinding and binding -/

theorem Registered.setBound (h : w.Registered) {difficulty : ℕ}
    {binds : OrderedMap ℕ InstanceBind} : (w.setBound holder difficulty binds).Registered :=
  ⟨h.registered, h.fresh⟩

theorem boundTo_setBound (w : BindWorld) (holder : Holder) (difficulty : ℕ)
    (binds : OrderedMap ℕ InstanceBind) (holder' : Holder) (difficulty' mapid : ℕ) :
    (w.setBound holder difficulty binds).boundTo holder' difficulty' mapid =
      if holder' = holder ∧ difficulty' = difficulty then
        (binds.find? mapid).map InstanceBind.save
      else w.boundTo holder' difficulty' mapid := by
  simp only [boundTo, setBound]
  split_ifs <;> rfl

theorem boundTo_erase (hbound : w'.boundInstances = w.boundInstances)
    (holder : Holder) (difficulty mapid : ℕ) (holder' : Holder) (difficulty' mapid' : ℕ) :
    (w'.setBound holder difficulty ((w'.boundInstances holder difficulty).erase mapid)).boundTo
        holder' difficulty' mapid' =
      if holder' = holder ∧ difficulty' = difficulty ∧ mapid' = mapid then none
      else w.boundTo holder' difficulty' mapid' := by
  rw [boundTo_setBound, hbound, find?_erase]
  by_cases hsame : holder' = holder ∧ difficulty' = difficulty
  · rw [if_pos hsame]
    by_cases hmap : mapid' = mapid
    · rw [if_pos hmap, if_pos ⟨hsame.1, hsame.2, hmap⟩, Option.map_none]
    · rw [if_neg hmap, if_neg fun h => hmap h.2.2, boundTo, hsame.1, hsame.2]
  · rw [if_neg hsame, if_neg fun h => hsame ⟨h.1, h.2.1⟩, boundTo, hbound, boundTo]

theorem boundTo_set (w : BindWorld) (holder : Holder) (difficulty mapid address : ℕ) (perm : Bool)
    (holder' : Holder) (difficulty' mapid' : ℕ) :
    (w.setBound holder difficulty
        ((w.boundInstances holder difficulty).set mapid ⟨address, perm⟩)).boundTo
        holder' difficulty' mapid' =
      if holder' = holder ∧ difficulty' = difficulty ∧ mapid' = mapid then some address
      else w.boundTo holder' difficulty' mapid' := by
  rw [boundTo_setBound, find?_set]
  by_cases hsame : holder' = holder ∧ difficulty' = difficulty
  · rw [if_pos hsame]
    by_cases hmap : mapid' = mapid
    · rw [if_pos hmap, if_pos ⟨hsame.1, hsame.2, hmap⟩, Option.map_some]
    · rw [if_neg hmap, if_neg fun h => hmap h.2.2, boundTo, hsame.1, hsame.2]
  · rw [if_neg hsame, if_neg fun h => hsame ⟨h.1, h.2.1⟩]

/-- **A bind is removed on both sides.** -/
theorem Symmetric.unlink (h : w.Symmetric) {difficulty mapid : ℕ}
    (hbind : w.boundTo holder difficulty mapid = some address)
    (hsave : w.saves.find? address = some save) (hremoved : Removed w w' address save holder) :
    (w'.setBound holder difficulty
      ((w'.boundInstances holder difficulty).erase mapid)).Symmetric := by
  obtain ⟨save', hsave', hdifficulty, hmapid⟩ := h.bound _ _ _ _ hbind
  obtain rfl : save = save' := Option.some.inj (hsave.symm.trans hsave')
  obtain ⟨hmap', hdiff', -⟩ := save.remove_fields holder
  constructor
  · intro holder' difficulty' mapid' address' hbind'
    rw [boundTo_erase hremoved.bound] at hbind'
    split_ifs at hbind' with hother
    obtain ⟨other, hfound, hd, hm⟩ := h.bound _ _ _ _ hbind'
    by_cases heq : address' = address
    · rw [heq] at hfound hbind' ⊢
      obtain rfl : save = other := Option.some.inj (hsave.symm.trans hfound)
      rcases hremoved.self with hself | ⟨-, hempty, -⟩
      · exact ⟨_, hself, hdiff'.trans hd, hmap'.trans hm⟩
      · -- Somebody else is listed, so the save was not destroyed.
        have hcount := h.count _ _ hfound holder'
        rw [hd, hm, if_pos hbind'] at hcount
        have hnone := (save.remove holder).isEmpty_iff.mp hempty holder'
        rw [BoundSave.count_remove] at hnone
        split_ifs at hnone with hsame
        · exact absurd ⟨hsame, hd.symm.trans hdifficulty, hm.symm.trans hmapid⟩ hother
        · omega
    · exact ⟨other, (hremoved.others address' heq).trans hfound, hd, hm⟩
  · intro address' save' hfound holder'
    change w'.saves.find? address' = some save' at hfound
    rw [boundTo_erase hremoved.bound]
    by_cases heq : address' = address
    · rw [heq] at hfound ⊢
      rcases hremoved.self with hself | ⟨hnone, -, -⟩
      · obtain rfl : save.remove holder = save' := Option.some.inj (hself.symm.trans hfound)
        rw [BoundSave.count_remove, hdiff', hmap', h.count _ _ hsave, hdifficulty, hmapid]
        by_cases hsame : holder' = holder <;> simp [hsame]
      · rw [hnone] at hfound
        cases hfound
    · rw [hremoved.others address' heq] at hfound
      rw [h.count _ _ hfound]
      split_ifs with hto hsame <;> try rfl
      · obtain ⟨rfl, hd, hm⟩ := hsame
        rw [hd, hm, hbind] at hto
        exact absurd (Option.some.inj hto).symm heq
      · next hnone => cases hnone

/-- **A bind is added on both sides.** -/
theorem Symmetric.link (h : w.Symmetric) (hsave : w.saves.find? address = some save)
    (hnone : w.boundTo holder save.difficulty save.mapid = none)
    (hsaves : w'.saves = w.saves.set address (save.add holder))
    (hbound : ∀ holder' difficulty' mapid', w'.boundTo holder' difficulty' mapid' =
      if holder' = holder ∧ difficulty' = save.difficulty ∧ mapid' = save.mapid then some address
      else w.boundTo holder' difficulty' mapid') : w'.Symmetric := by
  obtain ⟨hmapid, hdifficulty, -⟩ := save.add_fields holder
  constructor
  · intro holder' difficulty' mapid' address' hbind
    rw [hbound] at hbind
    rw [hsaves, find?_set]
    split_ifs at hbind with hsame
    · obtain rfl : address = address' := Option.some.inj hbind
      exact ⟨_, if_pos rfl, hdifficulty.trans hsame.2.1.symm, hmapid.trans hsame.2.2.symm⟩
    · obtain ⟨other, hfound, hd, hm⟩ := h.bound _ _ _ _ hbind
      by_cases heq : address' = address
      · rw [heq, hsave] at hfound
        obtain rfl : save = other := Option.some.inj hfound
        exact ⟨_, if_pos heq, hdifficulty.trans hd, hmapid.trans hm⟩
      · exact ⟨other, by rw [if_neg heq, hfound], hd, hm⟩
  · intro address' save' hfound holder'
    rw [hsaves, find?_set] at hfound
    rw [hbound]
    split_ifs at hfound with heq
    · obtain rfl : save.add holder = save' := Option.some.inj hfound
      rw [BoundSave.count_add, h.count _ _ hsave, hdifficulty, hmapid, heq]
      by_cases hsame : holder' = holder
      · simp [hsame, hnone]
      · simp [hsame]
    · rw [h.count _ _ hfound]
      by_cases hsame : holder' = holder ∧ save'.difficulty = save.difficulty ∧
          save'.mapid = save.mapid
      · rw [if_pos hsame, hsame.1, hsame.2.1, hsame.2.2, hnone]
        simp [Ne.symm heq]
      · rw [if_neg hsame]

/-- **Unbinding** keeps both sides in agreement. -/
theorem Tracked.unbindInstance (h : w.Tracked) (holder : Holder) (mapid difficulty : ℕ) :
    ∃ w', w.unbindInstance holder mapid difficulty = some w' ∧ w'.Tracked ∧
      w'.lockInstLists = w.lockInstLists ∧
      ∀ address save, w.boundTo holder difficulty mapid = some address →
        w.saves.find? address = some save → w.lockInstLists = true →
          w'.saves.find? address = some (save.remove holder) := by
  rw [BindWorld.unbindInstance]
  cases hbind : (w.boundInstances holder difficulty).find? mapid with
  | none =>
    refine ⟨w, rfl, h, rfl, fun address save hto => ?_⟩
    rw [boundTo, hbind] at hto
    cases hto
  | some bind =>
    have hto : w.boundTo holder difficulty mapid = some bind.save := by
      rw [boundTo, hbind, Option.map_some]
    obtain ⟨save, hsave, -, -⟩ := h.symmetric.bound _ _ _ _ hto
    obtain ⟨w', hw', hremoved⟩ := removeHolder_spec h.registered hsave holder
    dsimp only
    rw [hw']
    refine ⟨_, rfl, ⟨h.symmetric.unlink hto hsave hremoved, hremoved.registered.setBound⟩,
      hremoved.lock, fun address save' hto' hsave' hlock => ?_⟩
    obtain rfl : bind.save = address := Option.some.inj (hto.symm.trans hto')
    obtain rfl : save = save' := Option.some.inj (hsave.symm.trans hsave')
    refine hremoved.self.resolve_right fun hgone => ?_
    rw [hgone.2.2] at hlock
    cases hlock

theorem Symmetric.setSave (h : w.Symmetric) {save' : BoundSave}
    (hsave : w.saves.find? address = some save) (hmapid : save'.mapid = save.mapid)
    (hdifficulty : save'.difficulty = save.difficulty)
    (hcount : ∀ holder, save'.count holder = save.count holder) :
    (w.setSave address save').Symmetric := by
  constructor
  · intro holder difficulty mapid address' hbind
    obtain ⟨other, hfound, hd, hm⟩ := h.bound _ _ _ _ hbind
    rw [BindWorld.setSave, find?_set]
    by_cases heq : address' = address
    · rw [heq, hsave] at hfound
      obtain rfl : save = other := Option.some.inj hfound
      exact ⟨save', if_pos heq, hdifficulty.trans hd, hmapid.trans hm⟩
    · exact ⟨other, by rw [if_neg heq, hfound], hd, hm⟩
  · intro address' other hfound holder
    show other.count holder = if w.boundTo holder other.difficulty other.mapid = _ then 1 else 0
    rw [BindWorld.setSave, find?_set] at hfound
    split_ifs at hfound with heq
    · obtain rfl : save' = other := Option.some.inj hfound
      rw [hcount, heq, h.count _ _ hsave]
      simp only [hdifficulty, hmapid]
    · exact h.count _ _ hfound holder

theorem Symmetric.congr (h : w.Symmetric) (hsaves : w'.saves = w.saves)
    (hbound : ∀ holder difficulty mapid,
      w'.boundTo holder difficulty mapid = w.boundTo holder difficulty mapid) :
    w'.Symmetric := by
  constructor
  · intro holder difficulty mapid address hbind
    rw [hbound] at hbind
    rw [hsaves]
    exact h.bound _ _ _ _ hbind
  · intro address save hfound holder
    rw [hsaves] at hfound
    rw [hbound]
    exact h.count _ _ hfound holder

theorem forbidReset_setBound (w : BindWorld) (address : ℕ) (holder : Holder) (permanent : Bool)
    (difficulty mapid : ℕ) (bind : InstanceBind) :
    (w.forbidReset address holder permanent).setBound holder difficulty
        (((w.forbidReset address holder permanent).boundInstances holder difficulty).set mapid
          bind) =
      (w.setBound holder difficulty
        ((w.boundInstances holder difficulty).set mapid bind)).forbidReset
        address holder permanent := by
  cases holder with
  | player guid =>
    cases hsave : w.saves.find? address with
    | none => simp [forbidReset, setBound, hsave]
    | some save => cases permanent <;> simp [forbidReset, setBound, setSave, hsave]
  | group id => simp [forbidReset]

theorem Tracked.forbidReset (h : w.Tracked) (address : ℕ) (holder : Holder)
    (permanent : Bool) : (w.forbidReset address holder permanent).Tracked := by
  unfold BindWorld.forbidReset
  split
  · next hsave =>
    split_ifs
    · exact ⟨h.symmetric.setSave hsave rfl rfl fun holder => by cases holder <;> rfl,
        h.registered.setSave hsave rfl⟩
    · exact h
  · exact h

/-- **The lists follow a bind**: the holder leaves the list of the save that it was bound to, and
enters that of the save that it is bound to. -/
theorem Tracked.rebind (h : w.Tracked) (holder : Holder)
    (hsave : w.saves.find? address = some save) (permanent : Bool) :
    ∃ w', w.rebind holder (w.boundTo holder save.difficulty save.mapid) address = some w' ∧
      (w'.setBound holder save.difficulty
        ((w'.boundInstances holder save.difficulty).set save.mapid
          ⟨address, permanent⟩)).Tracked := by
  have hid := (save.add_fields holder).2.2
  cases hbind : w.boundTo holder save.difficulty save.mapid with
  | none =>
    refine ⟨w.setSave address (save.add holder), ?_, ?_, (h.registered.setSave hsave hid).setBound⟩
    · rw [BindWorld.rebind, addHolder, hsave, Option.map_some]
    · exact h.symmetric.link hsave hbind rfl fun _ _ _ => boundTo_set _ _ _ _ _ _ _ _ _
  | some old =>
    by_cases hsame : old = address
    · refine ⟨w, ?_, h.symmetric.congr rfl fun holder' difficulty' mapid' => ?_,
        h.registered.setBound⟩
      · rw [BindWorld.rebind]
        exact if_pos hsame
      · rw [boundTo_set]
        split_ifs with heq
        · rw [heq.1, heq.2.1, heq.2.2, hbind, hsame]
        · rfl
    · obtain ⟨oldSave, hold, -, -⟩ := h.symmetric.bound _ _ _ _ hbind
      obtain ⟨w₁, hw₁, hremoved⟩ := removeHolder_spec h.registered hold holder
      have hthere : w₁.saves.find? address = some save :=
        (hremoved.others address (Ne.symm hsame)).trans hsave
      refine ⟨w₁.setSave address (save.add holder), ?_, ?_,
        (hremoved.registered.setSave hthere hid).setBound⟩
      · rw [BindWorld.rebind, if_neg hsame, hw₁, Option.bind_some, addHolder, hthere,
          Option.map_some]
      · -- First the old bind goes on both sides, then the new one comes.
        have hunlinked := h.symmetric.unlink hbind hold hremoved
        refine hunlinked.link hthere ?_ rfl fun holder' difficulty' mapid' => ?_
        · rw [boundTo_erase hremoved.bound, if_pos ⟨rfl, rfl, rfl⟩]
        · rw [boundTo_set, boundTo_erase hremoved.bound]
          split_ifs with heq
          · rfl
          · show w₁.boundTo holder' difficulty' mapid' = _
            rw [boundTo, hremoved.bound, boundTo]

/-- **Binding** keeps both sides in agreement. -/
theorem Tracked.bindToInstance (h : w.Tracked) (holder : Holder)
    (save? : Option ℕ) (permanent : Bool)
    (hallowed : w.Allowed (.bindToInstance holder save? permanent)) :
    ∃ w', w.bindToInstance holder save? permanent = some w' ∧ w'.Tracked := by
  cases save? with
  | none => exact ⟨w, rfl, h⟩
  | some address =>
    obtain ⟨save, hsave⟩ := Option.isSome_iff_exists.mp hallowed
    obtain ⟨w', hw', htracked⟩ := h.rebind holder hsave permanent
    unfold BindWorld.bindToInstance
    dsimp only
    split_ifs
    · exact ⟨w, rfl, h⟩
    · rw [hsave]
      dsimp only
      rw [boundTo] at hw'
      rw [hw', Option.map_some, forbidReset_setBound]
      exact ⟨_, rfl, htracked.forbidReset address holder permanent⟩

theorem Symmetric.insert (h : w.Symmetric) (hnew : ∀ other, w.saves.find? address ≠ some other)
    (hnobody : ∀ holder, save.count holder = 0) (hsaves : w'.saves = w.saves.set address save)
    (hbound : ∀ holder difficulty mapid,
      w'.boundTo holder difficulty mapid = w.boundTo holder difficulty mapid) :
    w'.Symmetric := by
  have hunbound : ∀ holder difficulty mapid,
      w.boundTo holder difficulty mapid ≠ some address := fun holder difficulty mapid hbind => by
    obtain ⟨other, hother, -, -⟩ := h.bound _ _ _ _ hbind
    exact hnew other hother
  constructor
  · intro holder difficulty mapid address' hbind
    rw [hbound] at hbind
    obtain ⟨other, hother, hd, hm⟩ := h.bound _ _ _ _ hbind
    have hne : address' ≠ address := fun heq => hunbound _ _ _ (heq ▸ hbind)
    exact ⟨other, by rw [hsaves, find?_set_of_ne _ _ hne, hother], hd, hm⟩
  · intro address' other hfound holder
    rw [hsaves, find?_set] at hfound
    rw [hbound]
    split_ifs at hfound with heq
    · obtain rfl : save = other := Option.some.inj hfound
      rw [hnobody, heq, if_neg (hunbound _ _ _)]
    · exact h.count _ _ hfound holder

theorem Tracked.addInstanceSave (h : w.Tracked)
    (mapid instanceId difficulty : ℕ) (canReset : Bool) :
    (w.addInstanceSave mapid instanceId difficulty canReset).Tracked := by
  rw [BindWorld.addInstanceSave]
  split_ifs with hthere
  · exact h
  rw [Bool.or_eq_true, not_or, OrderedMap.contains, Bool.not_eq_true, Option.isSome_eq_false_iff,
    Option.isNone_iff_eq_none] at hthere
  have hnew : ∀ address save, w.saves.find? address = some save → address ≠ w.nextSave :=
    fun address save hsave => (h.registered.fresh address save hsave).ne
  constructor
  · refine h.symmetric.insert (fun save hsave => hnew _ save hsave rfl) (fun holder => ?_) rfl
      fun _ _ _ => rfl
    cases holder <;> rfl
  · constructor
    · intro instanceId' address
      show (w.instanceSaveById.set _ _).find? instanceId' = some address ↔
        ∃ save, (w.saves.set _ _).find? address = some save ∧ _
      rw [find?_set, find?_set]
      split_ifs with hid haddress haddress
      · simp [hid, haddress]
      · refine iff_of_false (fun heq => haddress (Option.some.inj heq).symm) ?_
        rintro ⟨save, hsave, hid'⟩
        have hregistered := (h.registered.registered instanceId' address).mpr ⟨save, hsave, hid'⟩
        rw [hid, hthere.1] at hregistered
        cases hregistered
      · refine iff_of_false (fun heq => ?_) ?_
        · obtain ⟨save, hsave, -⟩ := (h.registered.registered instanceId' address).mp heq
          exact hnew address save hsave haddress
        · rintro ⟨save, hsave, hid'⟩
          cases hsave
          exact hid hid'.symm
      · exact h.registered.registered instanceId' address
    · intro address save hfound
      change (w.saves.set _ _).find? address = some save at hfound
      show address < w.nextSave + 1
      rw [find?_set] at hfound
      split_ifs at hfound with heq
      · omega
      · exact (h.registered.fresh address save hfound).trans (Nat.lt_succ_self _)

/-! ## A reset -/

theorem unbindAll_spec (list keep : BoundSave → List ℕ) (holder : ℕ → Holder)
    (hcount : ∀ save x, save.count (holder x) = (list save).count x)
    (hremove : ∀ save x, list (save.remove (holder x)) = (list save).filter (· ≠ x))
    (hkeep : ∀ save x, keep (save.remove (holder x)) = keep save) (address : ℕ) :
    ∀ (turns : ℕ) (w : BindWorld) (save : BoundSave), w.Tracked → w.lockInstLists = true →
      w.saves.find? address = some save → (list save).length < turns →
      ∃ w' save', unbindAll list holder address turns w = some w' ∧ w'.Tracked ∧
        w'.lockInstLists = true ∧ w'.saves.find? address = some save' ∧ list save' = [] ∧
        keep save' = keep save ∧ save'.instanceId = save.instanceId
  | 0, _, _, _, _, _, hturns => absurd hturns (Nat.not_lt_zero _)
  | turns + 1, w, save, h, hlock, hsave, hturns => by
    rw [unbindAll, hsave]
    dsimp only
    cases hlist : list save with
    | nil => exact ⟨w, save, rfl, h, hlock, hsave, hlist, rfl, rfl⟩
    | cons first rest =>
      have hbind : w.boundTo (holder first) save.difficulty save.mapid = some address := by
        by_contra hother
        have hzero := h.symmetric.count _ _ hsave (holder first)
        rw [hcount, hlist, List.count_cons_self, if_neg hother] at hzero
        omega
      obtain ⟨w₁, hw₁, htracked, hlock₁, hleft⟩ :=
        h.unbindInstance (holder first) save.mapid save.difficulty
      have hshorter : (list (save.remove (holder first))).length < turns := by
        have hle := List.length_filter_le (fun x => decide (x ≠ first)) rest
        rw [hremove, hlist, List.filter_cons_of_neg (by simp)]
        rw [hlist, List.length_cons] at hturns
        omega
      obtain ⟨w', save', hw', htracked', hlock', hsave', hnil, hkept, hid⟩ :=
        unbindAll_spec list keep holder hcount hremove hkeep address turns w₁
          (save.remove (holder first)) htracked (hlock₁.trans hlock)
          (hleft address save hbind hsave hlock) hshorter
      dsimp only
      rw [hw₁, Option.bind_some]
      exact ⟨w', save', hw', htracked', hlock', hsave', hnil, hkept.trans (hkeep _ _),
        hid.trans (save.remove_fields _).2.2⟩

theorem Tracked.erase (h : w.Tracked)
    (hsave : w.saves.find? address = some save) (hempty : save.isEmpty = true)
    (hsaves : w'.saves = w.saves.erase address)
    (hids : w'.instanceSaveById = w.instanceSaveById.erase save.instanceId)
    (hnext : w'.nextSave = w.nextSave) (hbound : w'.boundInstances = w.boundInstances) :
    w'.Tracked := by
  have hto : ∀ holder difficulty mapid,
      w'.boundTo holder difficulty mapid = w.boundTo holder difficulty mapid :=
    fun holder difficulty mapid => by rw [boundTo, hbound, boundTo]
  refine ⟨⟨fun holder difficulty mapid address' hbind => ?_,
    fun address' other hfound holder => ?_⟩, h.registered.erase hsave hsaves hids hnext⟩
  · rw [hto] at hbind
    obtain ⟨other, hother, hd, hm⟩ := h.symmetric.bound _ _ _ _ hbind
    have hne : address' ≠ address := fun heq => by
      rw [heq, hsave] at hother
      obtain rfl : save = other := Option.some.inj hother
      have hone := h.symmetric.count _ _ hsave holder
      rw [hd, hm, hbind, heq, if_pos rfl, save.isEmpty_iff.mp hempty] at hone
      cases hone
    exact ⟨other, by rw [hsaves, find?_erase_of_ne _ hne, hother], hd, hm⟩
  · rw [hsaves, find?_erase] at hfound
    rw [hto]
    split_ifs at hfound
    exact h.symmetric.count _ _ hfound holder

/-- **A reset** unbinds everyone, and destroys the save. -/
theorem Tracked.resetSave (h : w.Tracked) (instanceId : ℕ)
    (hallowed : w.Allowed (.resetSave instanceId)) :
    ∃ w', w.resetSave instanceId = some w' ∧ w'.Tracked := by
  obtain ⟨address, haddress⟩ := Option.isSome_iff_exists.mp hallowed
  obtain ⟨save, hsave, hid⟩ := (h.registered.registered instanceId address).mp haddress
  have hlocked : ({ w with lockInstLists := true } : BindWorld).Tracked :=
    ⟨⟨h.symmetric.bound, h.symmetric.count⟩, ⟨h.registered.registered, h.registered.fresh⟩⟩
  obtain ⟨w₁, save₁, hw₁, htracked₁, hlock₁, hsave₁, hplayers, -, hid₁⟩ :=
    unbindAll_spec BoundSave.playerList BoundSave.groupList .player (fun _ _ => rfl)
      (fun _ _ => rfl)
      (fun _ _ => rfl) address _ _ save hlocked rfl hsave (Nat.lt_succ_self _)
  obtain ⟨w₂, save₂, hw₂, htracked₂, -, hsave₂, hgroups, hkept, hid₂⟩ :=
    unbindAll_spec BoundSave.groupList BoundSave.playerList .group (fun _ _ => rfl) (fun _ _ => rfl)
      (fun _ _ => rfl) address _ _ save₁ htracked₁ hlock₁ hsave₁ (Nat.lt_succ_self _)
  have hempty : save₂.isEmpty = true := by
    rw [BoundSave.isEmpty, hgroups, hkept, hplayers]
    rfl
  have hid' : save₂.instanceId = instanceId := (hid₂.trans hid₁).trans hid
  refine ⟨{ w₂ with
    saves := w₂.saves.erase address
    instanceSaveById := w₂.instanceSaveById.erase instanceId
    lockInstLists := false }, ?_, htracked₂.erase hsave₂ hempty rfl (by rw [hid']) rfl rfl⟩
  have hunbound : ({ w with lockInstLists := true } : BindWorld).unbindPlayers address =
      some w₁ := by
    rw [unbindPlayers, show ({ w with lockInstLists := true } : BindWorld).saves = w.saves from rfl,
      hsave]
    exact hw₁
  have hungrouped : w₁.unbindGroups address = some w₂ := by
    rw [unbindGroups, hsave₁]
    exact hw₂
  have hdestroyed : w₂.destroy address = some { w₂ with saves := w₂.saves.erase address } := by
    rw [destroy, hsave₂]
    exact if_pos hempty
  rw [BindWorld.resetSave, haddress]
  dsimp only
  rw [hunbound, Option.bind_eq_bind, Option.bind_some, hungrouped, Option.bind_some, hdestroyed,
    Option.bind_some]

/-! ## Every run -/

theorem Tracked.step {w : BindWorld} (h : w.Tracked) {op : Op} (hallowed : w.Allowed op) :
    ∃ w', w.step op = some w' ∧ w'.Tracked := by
  cases op with
  | addInstanceSave mapid instanceId difficulty canReset =>
    exact ⟨_, rfl, h.addInstanceSave mapid instanceId difficulty canReset⟩
  | bindToInstance holder save? permanent => exact h.bindToInstance holder save? permanent hallowed
  | unbindInstance holder mapid difficulty =>
    obtain ⟨w', hw', htracked, -⟩ := h.unbindInstance holder mapid difficulty
    exact ⟨w', hw', htracked⟩
  | resetSave instanceId => exact h.resetSave instanceId hallowed

theorem Symmetric.boundTo_iff (h : w.Symmetric) (holder : Holder) (difficulty mapid address : ℕ) :
    w.boundTo holder difficulty mapid = some address ↔
      ∃ save, w.saves.find? address = some save ∧ save.difficulty = difficulty ∧
        save.mapid = mapid ∧ save.count holder ≠ 0 := by
  constructor
  · intro hbind
    obtain ⟨save, hsave, hd, hm⟩ := h.bound _ _ _ _ hbind
    have hcount := h.count _ _ hsave holder
    rw [hd, hm, if_pos hbind] at hcount
    exact ⟨save, hsave, hd, hm, by omega⟩
  · rintro ⟨save, hsave, rfl, rfl, hlisted⟩
    by_contra hother
    exact hlisted ((h.count _ _ hsave holder).trans (if_neg hother))

theorem Symmetric.count_le_one (h : w.Symmetric)
    (hsave : w.saves.find? address = some save) (holder : Holder) : save.count holder ≤ 1 := by
  rw [h.count _ _ hsave]
  split_ifs <;> omega

/-- **Binds and lists agree after every run.** No step of it destroys a save that lists somebody, or
uses one that is gone, and the loops of every reset end. -/
theorem symmetric_after (isBGGroup : ℕ → Bool) (ops : List Op)
    (hallowed : Admissible (stepOption step) (fun w? op => ∀ w ∈ w?, w.Allowed op)
      (some (start isBGGroup)) ops) :
    ∃ w, run (stepOption step) (some (start isBGGroup)) ops = some w ∧
      (∀ holder difficulty mapid address,
        w.boundTo holder difficulty mapid = some address ↔
          ∃ save, w.saves.find? address = some save ∧ save.difficulty = difficulty ∧
            save.mapid = mapid ∧ save.count holder ≠ 0) ∧
      ∀ address save, w.saves.find? address = some save → ∀ holder, save.count holder ≤ 1 := by
  obtain ⟨w, hw, htracked⟩ := run_stepOption_invariant Tracked
    (fun w op h hok => h.step hok) (tracked_start isBGGroup) hallowed
  exact ⟨w, hw, htracked.symmetric.boundTo_iff,
    fun address save hsave holder => htracked.symmetric.count_le_one hsave holder⟩

/-- Two players and their group are bound to an instance, one of the players to another in its
place, and the first instance is reset. -/
theorem symmetric_after_reset :
    ∃ w, run (stepOption step) (some (start fun _ => false))
        [.addInstanceSave 33 1 0 true, .addInstanceSave 33 2 0 true,
          .bindToInstance (.player 7) (some 0) false, .bindToInstance (.player 8) (some 0) true,
          .bindToInstance (.group 5) (some 0) false, .bindToInstance (.player 7) (some 1) false,
          .unbindInstance (.player 9) 33 0, .resetSave 1] = some w ∧
      (∀ holder difficulty mapid address,
        w.boundTo holder difficulty mapid = some address ↔
          ∃ save, w.saves.find? address = some save ∧ save.difficulty = difficulty ∧
            save.mapid = mapid ∧ save.count holder ≠ 0) ∧
      ∀ address save, w.saves.find? address = some save → ∀ holder, save.count holder ≤ 1 :=
  symmetric_after _ _ (by decide +kernel)

end BindWorld

end TeraCore
