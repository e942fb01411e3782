import TeraCore.Commons.Run
import TeraCore.Instances.Turns
import Mathlib.Data.List.Pairwise

/-!
# Resets of instances: the right instance is reset

The id of an instance is a word, and an event of the queue has room for the lower half of it.  Two
events are the same for a cancel when these halves are.  So an instance with a large id is not the
one that is reset, and a cancel may remove the event of another instance, or that of a map, whose
id is zero.

As long as an instance that is due has a small id, and the lower half of the id of one that is
cancelled is that of no other event, the queue holds the events of the instances that are pending,
and an update resets those that are due.

## Main results

* `ResetWorld.hits_after`: the resets after every run that fits
* `ResetWorld.not_hits_after_largeId`: an id of more than 16 bits
-/

namespace TeraCore

open Commons InstanceSaveManager

/-- An instance, with its own id. -/
structure Instance where
  mapid : ℕ
  difficulty : ℕ
  instanceId : ℕ
  deriving DecidableEq

namespace Instance

def event (inst : Instance) : InstResetEvent :=
  .new 0 inst.mapid inst.difficulty inst.instanceId

/-- The map and the id, which name an instance. -/
def name (inst : Instance) : ℕ × ℕ := (inst.mapid, inst.instanceId)

end Instance

/-- **The manager, and what it has to do**: the instances that were scheduled and neither cancelled
nor reset, the events of maps, and the resets that were due, the last one first. -/
structure ResetWorld where
  mgr : InstanceSaveManager
  pending : Multimap ℤ Instance
  globals : List (ℤ × InstResetEvent)
  due : List (ℕ × ℕ)

inductive ResetOp
  | schedule (time : ℤ) (inst : Instance)
  | cancel (time : ℤ) (inst : Instance)
  | update (now : ℕ)
  deriving DecidableEq

/-- Is the entry that of a single instance? -/
def isSingle (e : ℤ × InstResetEvent) : Bool := e.2.type == 0

/-- The event of a map, before any update: one of the four types, without an instance. -/
structure IsGlobal (event : InstResetEvent) : Prop where
  narrow : Narrow event
  type : event.type ≠ 0
  instanceId : event.instanceId = 0

namespace ResetWorld

/-- A manager with events of maps only. -/
def start (mgr : InstanceSaveManager) : ResetWorld :=
  ⟨mgr, Multimap.empty, mgr.resetTimeQueue.entries, mgr.resets⟩

/-- **One operation**, of the manager and of what it has to do. -/
def step (env : InstanceEnv) (w : ResetWorld) : ResetOp → Option ResetWorld
  | .schedule time inst => some
      { w with
        mgr := w.mgr.scheduleReset true time inst.event
        pending := w.pending.insert time inst }
  | .cancel time inst => some
      { w with
        mgr := w.mgr.scheduleReset false time inst.event
        pending := w.pending.filter fun e => e.2.name != inst.name }
  | .update now => (w.mgr.update env now).map fun mgr =>
      { mgr
        pending := w.pending.filter fun e => (now : ℤ) ≤ e.1
        globals := mgr.resetTimeQueue.entries.filter fun e => !isSingle e
        due := ((w.pending.filter fun e => e.1 < now).entries.map fun e => e.2.name).reverse ++
          w.due }

/-- **The manager does what it has to do**: its queue holds the events of the pending instances and
those of maps, and it has reset the instances that were due. -/
structure Hits (w : ResetWorld) : Prop where
  singles : w.mgr.resetTimeQueue.entries.filter isSingle =
    w.pending.entries.map fun e => (e.1, e.2.event)
  globals : (w.mgr.resetTimeQueue.entries.filter fun e => !isSingle e) = w.globals
  resets : w.mgr.resets = w.due

/-- What the callers see to: an id is that of one instance, a word, and that of its map has 16
bits. -/
def Allowed (w : ResetWorld) : ResetOp → Prop
  | .schedule _ inst => inst.instanceId < 2 ^ 32 ∧ inst.mapid < 2 ^ 16 ∧
      ∀ e ∈ w.pending.entries, e.2.instanceId ≠ inst.instanceId
  | .cancel _ inst => inst.instanceId < 2 ^ 32 ∧ inst.mapid < 2 ^ 16 ∧
      ∀ e ∈ w.pending.entries, e.2.instanceId = inst.instanceId → e.2.mapid = inst.mapid
  | .update _ => True

/-- Another event at that time has the lower half of the insts id. -/
def Clashes (w : ResetWorld) (inst : Instance) (time : ℤ) : Prop :=
  (∃ e ∈ w.pending.entries, e.1 = time ∧ e.2.instanceId ≠ inst.instanceId ∧
    e.2.instanceId % 2 ^ 16 = inst.instanceId % 2 ^ 16) ∨
  (inst.instanceId % 2 ^ 16 = 0 ∧ ∃ e ∈ w.globals, e.1 = time)

/-- **The lower half of an id is enough**: for a cancel, that of no other event is the same, or
that of no other event at the time that is named, which is that of the instance; for an update,
that of an instance that is due is all of it, and the loop ends. -/
def Fits (env : InstanceEnv) (w : ResetWorld) : ResetOp → Prop
  | .schedule _ _ => True
  | .cancel time inst => (∀ time, ¬ w.Clashes inst time) ∨
      ¬ w.Clashes inst time ∧
        ∃ e ∈ w.pending.entries, e.1 = time ∧ e.2.instanceId = inst.instanceId
  | .update now => (∀ e ∈ w.pending.entries, e.1 < now → e.2.instanceId < 2 ^ 16) ∧
      (ClockFits env now ∨ ∀ e ∈ w.globals, (now : ℤ) ≤ e.1)

/-- What the operations preserve. -/
structure Tracked (w : ResetWorld) : Prop where
  hits : w.Hits
  narrow : ∀ e ∈ w.mgr.resetTimeQueue.entries, Narrow e.2
  globals : ∀ e ∈ w.globals, e.2.instanceId = 0
  distinct : w.pending.entries.Pairwise fun e e' => e.2.instanceId ≠ e'.2.instanceId
  mapids : ∀ e ∈ w.pending.entries, e.2.mapid < 2 ^ 16

variable {mgr : InstanceSaveManager} {env : InstanceEnv} {w : ResetWorld} {time : ℤ}
  {inst : Instance} {now : ℕ}

theorem tracked_start
    (h : ∀ e ∈ mgr.resetTimeQueue.entries, IsGlobal e.2) : (start mgr).Tracked where
  hits := by
    refine ⟨?_, ?_, rfl⟩
    · refine List.filter_eq_nil_iff.mpr fun e he => ?_
      simpa [isSingle] using (h e he).type
    · refine List.filter_eq_self.mpr fun e he => ?_
      simpa [isSingle] using (h e he).type
  narrow e he := (h e he).narrow
  globals e he := (h e he).instanceId
  distinct := List.Pairwise.nil
  mapids e he := absurd he List.not_mem_nil

/-! ## Scheduling -/

theorem isSingle_event (time : ℤ) (inst : Instance) :
    isSingle (time, inst.event) = true := rfl

theorem Tracked.schedule (h : w.Tracked) (hallowed : w.Allowed (.schedule time inst)) :
    ∃ w', w.step env (.schedule time inst) = some w' ∧ w'.Tracked := by
  obtain ⟨-, hmapid, hfresh⟩ := hallowed
  refine ⟨_, rfl, ⟨?_, ?_, h.hits.resets⟩, ?_, h.globals, ?_, ?_⟩
  · rw [scheduleReset, if_pos rfl]
    rw [Multimap.entries_insert, Multimap.filter_insertEntry _ _ (isSingle_event time inst)
      w.mgr.resetTimeQueue.sorted, h.hits.singles, Multimap.entries_insert,
      Multimap.map_insertEntry time inst Instance.event]
  · rw [scheduleReset, if_pos rfl]
    dsimp only
    rw [Multimap.entries_insert, Multimap.filter_insertEntry_of_not _ _
      (by rw [isSingle_event, Bool.not_true]), h.hits.globals]
  · intro e he
    rcases (Multimap.mem_insert _ _ _).mp he with rfl | he
    · exact narrow_new (Nat.zero_le 4)
    · exact h.narrow e he
  · have hsymm : ∀ e e' : ℤ × Instance, e.2.instanceId ≠ e'.2.instanceId →
        e'.2.instanceId ≠ e.2.instanceId := fun _ _ => Ne.symm
    refine ((w.pending.perm_insert time inst).pairwise_iff fun {e e'} => hsymm e e').mpr ?_
    exact List.pairwise_cons.mpr ⟨fun e he => (hfresh e he).symm, h.distinct⟩
  · intro e he
    rcases (Multimap.mem_insert _ _ _).mp he with rfl | he
    · exact hmapid
    · exact h.mapids e he

/-! ## Cancelling -/

theorem Tracked.countP_name (h : w.Tracked) (inst : Instance) :
    w.pending.entries.countP (fun e => e.2.name == inst.name) ≤ 1 := by
  refine countP_le_one (h.distinct.imp fun {e e'} hne hnames => hne ?_)
  have hname := (beq_iff_eq.mp hnames.1).trans (beq_iff_eq.mp hnames.2).symm
  exact congrArg Prod.snd hname

theorem Tracked.filter_eraseP (h : w.Tracked) {p : ℤ × InstResetEvent → Bool}
    (hsingle : ∀ e ∈ w.pending.entries, p (e.1, e.2.event) = (e.2.name == inst.name))
    (hglobal : ∀ e ∈ w.globals, p e = false) :
    (w.mgr.resetTimeQueue.entries.eraseP p).filter isSingle =
        (w.pending.entries.filter fun e => e.2.name != inst.name).map (fun e => (e.1, e.2.event)) ∧
      ((w.mgr.resetTimeQueue.entries.eraseP p).filter fun e => !isSingle e) = w.globals := by
  have hsingles : (w.pending.entries.map fun e => (e.1, e.2.event)).countP p ≤ 1 := by
    rw [List.countP_map]
    refine (List.countP_congr fun e he => ?_).trans_le (h.countP_name inst)
    rw [Function.comp_apply, hsingle e he]
  have hglobals : w.globals.countP p = 0 :=
    List.countP_eq_zero.mpr fun e he => by rw [hglobal e he]; exact Bool.false_ne_true
  have hcount : w.mgr.resetTimeQueue.entries.countP p ≤ 1 := by
    rw [List.countP_eq_countP_filter_add _ p isSingle, h.hits.singles, h.hits.globals, hglobals,
      Nat.add_zero]
    exact hsingles
  rw [eraseP_eq_filter hcount]
  constructor
  · rw [List.filter_comm, h.hits.singles, List.filter_map]
    congr 1
    refine List.filter_congr fun e he => ?_
    rw [Function.comp_apply, hsingle e he]
    rfl
  · rw [List.filter_comm, h.hits.globals]
    refine List.filter_eq_self.mpr fun e he => ?_
    rw [hglobal e he, Bool.not_false]

theorem Hits.mem_cases (h : w.Hits) {e : ℤ × InstResetEvent}
    (he : e ∈ w.mgr.resetTimeQueue.entries) :
    (∃ e' ∈ w.pending.entries, e = (e'.1, e'.2.event)) ∨ e ∈ w.globals := by
  by_cases hsingle : isSingle e = true
  · have hmem : e ∈ w.mgr.resetTimeQueue.entries.filter isSingle :=
      List.mem_filter.mpr ⟨he, hsingle⟩
    rw [h.singles] at hmem
    obtain ⟨e', he', heq⟩ := List.mem_map.mp hmem
    exact .inl ⟨e', he', heq.symm⟩
  · refine .inr ?_
    rw [← h.globals]
    exact List.mem_filter.mpr ⟨he, by simpa using hsingle⟩

theorem Hits.mem_of_pending (h : w.Hits) {e : ℤ × Instance}
    (he : e ∈ w.pending.entries) : (e.1, e.2.event) ∈ w.mgr.resetTimeQueue.entries := by
  have hmem := List.mem_map_of_mem (f := fun e : ℤ × Instance => (e.1, e.2.event)) he
  rw [← h.singles] at hmem
  exact (List.mem_filter.mp hmem).1

theorem Tracked.pending_unique (h : w.Tracked) {e e' : ℤ × Instance}
    (he : e ∈ w.pending.entries) (he' : e' ∈ w.pending.entries)
    (hid : e.2.instanceId = e'.2.instanceId) : e = e' := by
  have hsymm : Std.Symm fun e e' : ℤ × Instance => e.2.instanceId ≠ e'.2.instanceId :=
    ⟨fun _ _ => Ne.symm⟩
  exact by_contra fun hne => h.distinct.forall he he' hne hid

theorem instanceId_of_name {inst' : Instance} (h : (inst.name == inst'.name) = true) :
    inst.instanceId = inst'.instanceId := congrArg Prod.snd (beq_iff_eq.mp h)

theorem same_of_instanceId {inst' : Instance} (h : inst.instanceId = inst'.instanceId) :
    inst.event.same inst'.event = true := by
  refine beq_iff_eq.mpr ?_
  show inst.instanceId % 2 ^ 16 = inst'.instanceId % 2 ^ 16
  rw [h]

theorem same_event_of_not_clashes
    (hallowed : w.Allowed (.cancel time inst)) {e : ℤ × Instance} (he : e ∈ w.pending.entries)
    (hclash : ¬ w.Clashes inst e.1) : e.2.event.same inst.event = (e.2.name == inst.name) := by
  obtain ⟨-, -, hmap⟩ := hallowed
  rw [Bool.eq_iff_iff]
  constructor
  · intro hlow
    have hid : e.2.instanceId = inst.instanceId :=
      by_contra fun hne => hclash (.inl ⟨e, he, rfl, hne, beq_iff_eq.mp hlow⟩)
    exact beq_iff_eq.mpr (Prod.ext (hmap e he hid) hid)
  · exact fun heq => same_of_instanceId (instanceId_of_name heq)

theorem Tracked.same_global_of_not_clashes (h : w.Tracked)
    {e : ℤ × InstResetEvent} (he : e ∈ w.globals) (hclash : ¬ w.Clashes inst e.1) :
    e.2.same inst.event = false := by
  refine beq_eq_false_iff_ne.mpr fun hlow => hclash (.inr ⟨?_, e, he, rfl⟩)
  rw [h.globals e he] at hlow
  exact hlow.symm

theorem Tracked.exists_eraseFirst (h : w.Tracked) (hallowed : w.Allowed (.cancel time inst))
    (hfits : w.Fits env (.cancel time inst)) :
    ∃ p : ℤ × InstResetEvent → Bool,
      w.mgr.scheduleReset false time inst.event =
        { w.mgr with resetTimeQueue := w.mgr.resetTimeQueue.eraseFirst p } ∧
      (∀ e ∈ w.pending.entries, p (e.1, e.2.event) = (e.2.name == inst.name)) ∧
      ∀ e ∈ w.globals, p e = false := by
  rw [scheduleReset, if_neg Bool.false_ne_true]
  split_ifs with hany
  · -- What is found at the time that is named is the event of the instance.
    have hclash : ¬ w.Clashes inst time := hfits.elim (fun h => h time) And.left
    obtain ⟨own, hown, htime, hid⟩ :
        ∃ e ∈ w.pending.entries, e.1 = time ∧ e.2.instanceId = inst.instanceId := by
      obtain ⟨e, he, hfound⟩ := List.any_eq_true.mp hany
      obtain ⟨htime, hlow⟩ := Bool.and_eq_true_iff.mp hfound
      have htime : e.1 = time := beq_iff_eq.mp htime
      rcases h.hits.mem_cases he with ⟨e', he', rfl⟩ | he'
      · have hsame := same_event_of_not_clashes hallowed he' (htime ▸ hclash)
        exact ⟨e', he', htime, instanceId_of_name (hsame.symm.trans hlow)⟩
      · rw [h.same_global_of_not_clashes he' (htime ▸ hclash)] at hlow
        cases hlow
    refine ⟨_, rfl, fun e he => ?_, fun e he => ?_⟩
    · by_cases hat : e.1 = time
      · rw [same_event_of_not_clashes hallowed he (hat ▸ hclash), hat, BEq.rfl, Bool.true_and]
      · rw [beq_eq_false_iff_ne.mpr hat, Bool.false_and]
        refine (beq_eq_false_iff_ne.mpr fun heq => hat ?_).symm
        rw [h.pending_unique he hown ((congrArg Prod.snd heq).trans hid.symm), htime]
    · by_cases hat : e.1 = time
      · rw [h.same_global_of_not_clashes he (hat ▸ hclash), Bool.and_false]
      · rw [beq_eq_false_iff_ne.mpr hat, Bool.false_and]
  · -- Nothing is found there, so the whole queue is searched, in which nothing clashes.
    have hall : ∀ time, ¬ w.Clashes inst time := by
      refine hfits.resolve_right fun hown => hany ?_
      obtain ⟨-, e, he, htime, heq⟩ := hown
      refine List.any_eq_true.mpr ⟨_, h.hits.mem_of_pending he, ?_⟩
      rw [htime, BEq.rfl, Bool.true_and]
      exact same_of_instanceId heq
    exact ⟨_, rfl, fun e he => same_event_of_not_clashes hallowed he (hall e.1),
      fun e he => h.same_global_of_not_clashes he (hall e.1)⟩

theorem Tracked.cancel (h : w.Tracked) (hallowed : w.Allowed (.cancel time inst))
    (hfits : w.Fits env (.cancel time inst)) :
    ∃ w', w.step env (.cancel time inst) = some w' ∧ w'.Tracked := by
  obtain ⟨p, hp, hsingle, hglobal⟩ := h.exists_eraseFirst hallowed hfits
  obtain ⟨hsingles, hglobals⟩ := h.filter_eraseP hsingle hglobal
  refine ⟨_, rfl, ?_⟩
  rw [hp]
  refine ⟨⟨hsingles, hglobals, h.hits.resets⟩, fun e he => ?_, h.globals, ?_, fun e he => ?_⟩
  · exact h.narrow e (List.mem_of_mem_eraseP he)
  · exact h.distinct.filter _
  · exact h.mapids e (List.mem_filter.mp he).1

/-! ## Updating -/

/-- **Between the turns of an update**: the first of the pending instances are reset, and the queue
holds the events of the others. -/
structure Worked (env : InstanceEnv) (now : ℕ) (w : ResetWorld) (mgr : InstanceSaveManager) :
    Prop where
  finishes : Finishes env now mgr
  globals : ∀ e ∈ mgr.resetTimeQueue.entries, isSingle e = false → e.2.instanceId = 0
  split : ∃ done todo, w.pending.entries = done ++ todo ∧ (∀ e ∈ done, e.1 < now) ∧
    mgr.resetTimeQueue.entries.filter isSingle = todo.map (fun e => (e.1, e.2.event)) ∧
    mgr.resets = (done.map fun e => e.2.name).reverse ++ w.due

/-- An event of a map stays one, and is not seen by who looks at the instances. -/
theorem filter_isSingle_requeue {t : ℤ} {old new : InstResetEvent}
    (hold : old.type ≠ 0) (hnew : new.type ≠ 0) (rest : List (ℤ × InstResetEvent)) :
    (requeue t old time new rest).filter isSingle = rest.filter isSingle := by
  rw [requeue]
  split_ifs
  · exact List.filter_cons_of_neg (by simpa [isSingle] using hold)
  · exact Multimap.filter_insertEntry_of_not time new (by simpa [isSingle] using hnew) rest

theorem filter_isSingle_of_first {t : ℤ}
    {event : InstResetEvent} {rest : List (ℤ × InstResetEvent)}
    (first : DueFirst now mgr t event rest) (htype : event.type ≠ 0) :
    mgr.resetTimeQueue.entries.filter isSingle = rest.filter isSingle := by
  rw [first.entries]
  exact List.filter_cons_of_neg (by simpa [isSingle] using htype)

theorem Worked.turn {mgr' : InstanceSaveManager}
    (hfits : ∀ e ∈ w.pending.entries, e.1 < now → e.2.instanceId < 2 ^ 16)
    (hmapids : ∀ e ∈ w.pending.entries, e.2.mapid < 2 ^ 16)
    (h : Worked env now w mgr) (hturn : Turn env now mgr mgr') : Worked env now w mgr' := by
  obtain ⟨done, todo, hpending, hdone, hsingles, hresets⟩ := h.split
  have hrest : ∀ {t event rest}, DueFirst now mgr t event rest → ∀ e ∈ rest,
      isSingle e = false → e.2.instanceId = 0 := fun first e he =>
    h.globals e (first.entries ▸ List.mem_cons_of_mem _ he)
  have hfirst : ∀ {t event rest}, DueFirst now mgr t event rest → event.type ≠ 0 →
      event.instanceId = 0 := fun first htype =>
    h.globals _ (first.entries ▸ List.mem_cons_self) (by simpa [isSingle] using htype)
  refine ⟨h.finishes.turn hturn, ?_, ?_⟩
  · cases hturn with
    | single t event rest first type entries => exact fun e he => hrest first e (entries ▸ he)
    | dropped t event rest first type _ entries => exact fun e he => hrest first e (entries ▸ he)
    | warned t event rest first type entries =>
      intro e he hsingle
      have hzero : event.instanceId = 0 := hfirst first type.1
      rcases mem_requeue (entries ▸ he) with rfl | rfl | he
      · exact hzero
      · exact hzero
      · exact hrest first e he hsingle
    | renewed t event rest first type mapDiff found next hnext entries =>
      intro e he hsingle
      have hzero : event.instanceId = 0 := hfirst first (by omega)
      rcases mem_requeue (entries ▸ he) with rfl | rfl | he
      · exact hzero
      · rfl
      · exact hrest first e he hsingle
  · cases hturn with
    | single t event rest first type entries _ resets =>
      rw [first.entries, List.filter_cons_of_pos (by simpa [isSingle] using type)] at hsingles
      obtain ⟨e, todo, rfl⟩ : ∃ e todo', todo = e :: todo' := by
        cases todo with
        | nil => cases hsingles
        | cons e todo => exact ⟨e, todo, rfl⟩
      rw [List.map_cons, List.cons.injEq, Prod.mk.injEq] at hsingles
      obtain ⟨⟨rfl, rfl⟩, hsingles⟩ := hsingles
      have hmem : e ∈ w.pending.entries := by
        rw [hpending]
        exact List.mem_append_right done List.mem_cons_self
      refine ⟨done ++ [e], todo, ?_, ?_, entries ▸ hsingles, ?_⟩
      · rw [hpending, List.append_assoc, List.singleton_append]
      · intro e' he'
        rcases List.mem_append.mp he' with he' | he'
        · exact hdone e' he'
        · rw [List.mem_singleton.mp he']
          exact first.due
      · -- The event of an instance that is due has its whole id.
        have hname : (e.2.event.mapid, e.2.event.instanceId) = e.2.name :=
          Prod.ext (Nat.mod_eq_of_lt (hmapids e hmem))
            (Nat.mod_eq_of_lt (hfits e hmem first.due))
        rw [resets, hresets, hname, List.map_append, List.reverse_append]
        rfl
    | dropped t event rest first type _ entries _ resets =>
      refine ⟨done, todo, hpending, hdone, ?_, resets ▸ hresets⟩
      rw [entries, ← filter_isSingle_of_first first (by omega), hsingles]
    | warned t event rest first type entries _ resets =>
      refine ⟨done, todo, hpending, hdone, ?_, resets ▸ hresets⟩
      have hcount : (countUp event).type ≠ 0 := by
        have htype : event.type ≤ 4 :=
          (h.finishes.narrow _ (first.entries ▸ List.mem_cons_self)).type
        show (event.type + 1) % 2 ^ 8 ≠ 0
        omega
      rw [entries, filter_isSingle_requeue hcount hcount, ← filter_isSingle_of_first first type.1,
        hsingles]
    | renewed t event rest first type mapDiff found next hnext entries _ resets =>
      refine ⟨done, todo, hpending, hdone, ?_, resets ▸ hresets⟩
      have hnew : (InstResetEvent.new 1 event.mapid event.difficulty 0).type ≠ 0 := Nat.one_ne_zero
      rw [entries, filter_isSingle_requeue (by omega) hnew,
        ← filter_isSingle_of_first first (by omega),
        hsingles]

theorem Tracked.update (h : w.Tracked) (hfits : w.Fits env (.update now)) :
    ∃ w', w.step env (.update now) = some w' ∧ w'.Tracked := by
  obtain ⟨hids, hclock⟩ := hfits
  have hworked : Worked env now w w.mgr := by
    refine ⟨⟨h.narrow, hclock.imp_right fun hlater e he hdue => ?_⟩, fun e he hsingle => ?_,
      [], w.pending.entries, rfl, fun e he => absurd he List.not_mem_nil, h.hits.singles,
      h.hits.resets⟩
    · rcases h.hits.mem_cases he with ⟨e', -, rfl⟩ | he
      · rfl
      · exact absurd hdue (not_lt.mpr (hlater e he))
    · refine h.globals e ?_
      rw [← h.hits.globals]
      exact List.mem_filter.mpr ⟨he, by rw [hsingle, Bool.not_false]⟩
  obtain ⟨mgr, hmgr, hend, hlater⟩ := update_rule (Worked env now w)
    (fun mgr mgr' hinv hturn => ⟨hinv.turn hids h.mapids hturn,
      load_lt_of_turn hinv.finishes.forward hturn⟩) hworked
  obtain ⟨done, todo, hpending, hdone, hsingles, hresets⟩ := hend.split
  -- The instances that are left are not due, because no event of the queue is.
  have htodo : ∀ e ∈ todo, (now : ℤ) ≤ e.1 := by
    intro e he
    have hmem := List.mem_map_of_mem (f := fun e : ℤ × Instance => (e.1, e.2.event)) he
    rw [← hsingles] at hmem
    exact hlater _ (List.mem_filter.mp hmem).1
  have hleft : (w.pending.entries.filter fun e => (now : ℤ) ≤ e.1) = todo := by
    rw [hpending, List.filter_append,
      List.filter_eq_nil_iff.mpr fun e he => by simpa using hdone e he, List.nil_append]
    exact List.filter_eq_self.mpr fun e he => by simpa using htodo e he
  have hdue : (w.pending.entries.filter fun e => e.1 < (now : ℤ)) = done := by
    rw [hpending, List.filter_append,
      List.filter_eq_self.mpr fun e he => by simpa using hdone e he,
      List.filter_eq_nil_iff.mpr fun e he => by simpa using htodo e he, List.append_nil]
  rw [step, hmgr]
  refine ⟨_, rfl, ⟨?_, rfl, ?_⟩, hend.finishes.narrow, fun e he => ?_, h.distinct.filter _,
    fun e he => h.mapids e (List.mem_filter.mp he).1⟩
  · show _ = (w.pending.entries.filter fun e => (now : ℤ) ≤ e.1).map _
    rw [hleft, hsingles]
  · show _ = ((w.pending.entries.filter fun e => e.1 < (now : ℤ)).map _).reverse ++ w.due
    rw [hdue, hresets]
  · obtain ⟨hmem, hsingle⟩ := List.mem_filter.mp he
    exact hend.globals e hmem (by simpa using hsingle)

/-! ## Runs -/

/-- The operations one after another, unless an update does not end. -/
def stepRun (env : InstanceEnv) (w? : Option ResetWorld) (op : ResetOp) : Option ResetWorld :=
  w?.bind fun w => w.step env op

/-- **Every reset hits the right instance** in every run all of whose steps fit, and every update
ends. -/
theorem hits_after {env : InstanceEnv} {mgr : InstanceSaveManager}
    (hmgr : ∀ e ∈ mgr.resetTimeQueue.entries, IsGlobal e.2) {ops : List ResetOp}
    (hops : Admissible (stepRun env)
      (fun w? op => ∀ w ∈ w?, w.Allowed op ∧ w.Fits env op) (some (start mgr)) ops) :
    ∃ w, run (stepRun env) (some (start mgr)) ops = some w ∧ w.Hits := by
  have hinv := run_invariant (fun w? => ∃ w : ResetWorld, w? = some w ∧ w.Tracked)
    (fun w? op htracked hop => ?_) ⟨start mgr, rfl, tracked_start hmgr⟩ hops
  · obtain ⟨w, hw, htracked⟩ := hinv
    exact ⟨w, hw, htracked.hits⟩
  · obtain ⟨w, rfl, htracked⟩ := htracked
    obtain ⟨hallowed, hfits⟩ := hop w rfl
    show ∃ w', w.step env op = some w' ∧ w'.Tracked
    cases op with
    | schedule time inst => exact htracked.schedule hallowed
    | cancel time inst => exact htracked.cancel hallowed hfits
    | update now => exact htracked.update hfits

/-- A raid that is reset once a week. -/
def raidEnv : InstanceEnv := .oneMap 533 (7 * day) id 4

/-- The raid is to be reset at 3620, and the first warning of it is due at 20. -/
def raidMgr : InstanceSaveManager :=
  (InstanceSaveManager.new.setResetTimeFor 533 0 3620).scheduleReset true 20 (.new 1 533 0 0)

/-- Two instances are scheduled, and one of them is cancelled. -/
def cancelledAndReset : List ResetOp :=
  [.schedule 10 ⟨33, 0, 5⟩, .schedule 25 ⟨34, 1, 70⟩, .cancel 10 ⟨33, 0, 5⟩, .update 30]

theorem hits_after_cancelledAndReset :
    ∃ w, run (stepRun raidEnv) (some (start raidMgr)) cancelledAndReset = some w ∧ w.Hits := by
  refine hits_after ?_ ⟨fun w hw => ?_, fun w hw => ?_, fun w hw => ?_, fun w hw => ?_, trivial⟩
  · intro e he
    obtain rfl := List.mem_singleton.mp he
    exact ⟨narrow_new (by decide), by decide, rfl⟩
  all_goals obtain rfl := Option.some.inj hw
  · exact ⟨⟨by decide, by decide, by decide⟩, trivial⟩
  · exact ⟨⟨by decide, by decide, by decide⟩, trivial⟩
  · refine ⟨⟨by decide, by decide, by decide⟩, .inl fun time hclash => ?_⟩
    rcases hclash with ⟨e, he, -, hne, hlow⟩ | ⟨hlow, -⟩
    · revert e
      decide
    · revert hlow
      decide
  · refine ⟨trivial, by decide, .inl fun key mapDiff hfound => ?_⟩
    rw [InstanceEnv.find?_oneMap hfound]
    decide

/-- **An id of more than 16 bits**: another instance of the map is reset. -/
theorem not_hits_after_largeId :
    ¬ ∀ (env : InstanceEnv) (mgr : InstanceSaveManager) (ops : List ResetOp),
      (∀ e ∈ mgr.resetTimeQueue.entries, IsGlobal e.2) →
      Admissible (stepRun env) (fun w? op => ∀ w ∈ w?, w.Allowed op) (some (start mgr)) ops →
      ∃ w, run (stepRun env) (some (start mgr)) ops = some w ∧ w.Hits := by
  intro h
  obtain ⟨w, hw, hhits⟩ := h raidEnv InstanceSaveManager.new
    [.schedule 10 ⟨1, 0, 65537⟩, .update 11] (fun e he => absurd he List.not_mem_nil)
    ⟨fun w hw => by obtain rfl := Option.some.inj hw; exact ⟨by decide, by decide, by decide⟩,
      fun _ _ => trivial, trivial⟩
  have hlogs : (run (stepRun raidEnv) (some (start InstanceSaveManager.new))
      [.schedule 10 ⟨1, 0, 65537⟩, .update 11]).map (fun w => (w.mgr.resets, w.due)) =
        some ([(1, 1)], [(1, 65537)]) := by decide +kernel
  rw [hw, Option.map_some, Option.some.injEq, Prod.mk.injEq, hhits.resets] at hlogs
  exact absurd (hlogs.1.symm.trans hlogs.2) (by decide)

end ResetWorld

end TeraCore
