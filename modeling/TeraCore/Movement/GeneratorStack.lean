import Mathlib.Data.Fintype.Basic
import TeraCore.Movement.MotionMaster

/-!
# The stack of generators

A slot is vacated from the moment `Mutate` takes its generator out until the new one is put in.  In
between `Finalize` runs, and its calls find a slot that is empty without being unused.

## Main results

* `motionSound_run`: runs of calls that fit keep the slots, and destroy what leaves them once
* `not_motionSound`: a second `Initialize` leaves the slots
-/

namespace TeraCore.Movement

open Commons

/-! ## Frames -/

namespace Frame

/-- Does a frame put a generator in this slot? -/
def stores (v : MovementSlot) : Frame → Bool
  | mutate _ slot => slot = v
  | _ => false

/-- A loop that goes down to the slot `MOTION_SLOT_IDLE`. -/
def isLoop : Frame → Bool
  | clean _ => true
  | delayedClean => true
  | _ => false

/-- What is left of a frame of this kind needs a generator in the slot `MOTION_SLOT_IDLE`. -/
def isBase : Frame → Bool
  | clean _ => true
  | delayedClean => true
  | updating _ => true
  | updateEnd => true
  | expList => true
  | _ => false

/-- What is left of a frame of this kind needs a generator on top. -/
def usesTop : Frame → Bool
  | expire _ => true
  | delayedExpire => true
  | f => f.isBase

/-- The generator that is neither in a slot nor destroyed. -/
def holds : Frame → Option Generator
  | destroy g => some g
  | mutate m _ => some m
  | _ => none

/-- The frames of the calls that `Update` makes. -/
def inUpdate : Frame → Bool
  | running _ => true
  | destroy _ => true
  | mutate _ _ => true
  | delayedClean => true
  | delayedExpire => true
  | initTop => true
  | _ => false

/-- The frames of other calls. -/
def outUpdate : Frame → Bool
  | updating _ => false
  | delayedClean => false
  | delayedExpire => false
  | selecting => false
  | clearAll => false
  | _ => true

/-- A frame of which nothing is said elsewhere. -/
def plain : Frame → Bool
  | destroy _ => false
  | mutate _ _ => false
  | updating _ => false
  | updateEnd => false
  | expList => false
  | _ => true

end Frame

/-- The second half of a `Mutate` of this slot is left. -/
def Vacated (fs : List Frame) (v : MovementSlot) : Prop := ∃ m, Frame.mutate m v ∈ fs

/-- It is done before a frame that needs it. -/
def Pending (user : Frame → Bool) (v : MovementSlot) : List Frame → Prop
  | [] => False
  | f :: fs => f.stores v = true ∨ user f = false ∧ Pending user v fs

/-- Loops were begun when no slot above `MOTION_SLOT_IDLE` was vacated, and a vacated slot is given
the static generator only. -/
def Layered : List Frame → Prop
  | [] => True
  | f :: fs => (f.isLoop = true → ∀ v, Vacated fs v → v = MOTION_SLOT_IDLE) ∧
      (∀ m v, f = .mutate m v → Vacated fs v → m = .si_idleMovement) ∧ Layered fs

variable {fs : List Frame} {f : Frame} {t t' v slot : MovementSlot} {m g : Generator}
  {Impl : MovementSlot → Option Generator}

theorem Vacated.cons (h : Vacated fs v) : Vacated (f :: fs) v := by
  obtain ⟨m, hm⟩ := h
  exact ⟨m, List.mem_cons_of_mem f hm⟩

theorem vacated_cons (h : Vacated (f :: fs) v) : f.stores v = true ∨ Vacated fs v := by
  obtain ⟨m, hm⟩ := h
  rcases List.mem_cons.mp hm with heq | hmem
  · left
    rw [← heq]
    exact decide_eq_true rfl
  · exact .inr ⟨m, hmem⟩

theorem Pending.vacated {user : Frame → Bool} (h : Pending user v fs) : Vacated fs v := by
  induction fs with
  | nil => exact h.elim
  | cons f fs ih =>
    rcases h with hstores | ⟨-, hpending⟩
    · cases f with
      | mutate m slot => exact ⟨m, by rw [of_decide_eq_true hstores]; exact List.mem_cons_self⟩
      | _ => cases hstores
    · exact (ih hpending).cons

/-! ## The shape of the stack -/

/-- **The shape of the slots**: the slot `t` is the top. -/
structure Shape (Impl : MovementSlot → Option Generator) (fs : List Frame) (t : MovementSlot) :
    Prop where
  idle : (Impl MOTION_SLOT_IDLE).isSome = true ∨ Pending Frame.isBase MOTION_SLOT_IDLE fs
  top : (Impl t).isSome = true ∨ Pending Frame.usesTop t fs
  below : ∀ v, (Impl v).isSome = true ∨ Vacated fs v → v ≤ t
  vacant : ∀ v, Vacated fs v → ∀ g, Impl v = some g → g = .si_idleMovement
  layered : Layered fs

namespace Shape

theorem push (h : Shape Impl fs t) (hstores : ∀ v, f.stores v = false)
    (htop : f.usesTop = true → (Impl t).isSome = true)
    (hbase : f.isBase = true → (Impl MOTION_SLOT_IDLE).isSome = true)
    (hloop : f.isLoop = true → ∀ v, Vacated fs v → v = MOTION_SLOT_IDLE) :
    Shape Impl (f :: fs) t := by
  have hvacated (v) (hv : Vacated (f :: fs) v) : Vacated fs v := by
    refine (vacated_cons hv).resolve_left fun hs => ?_
    rw [hstores v] at hs
    cases hs
  refine ⟨?_, ?_, fun v hv => h.below v (hv.imp id (hvacated v)),
    fun v hv => h.vacant v (hvacated v hv), hloop, fun m v heq _ => ?_, h.layered⟩
  · cases hf : f.isBase with
    | true => exact .inl (hbase hf)
    | false => exact h.idle.imp id fun hp => .inr ⟨hf, hp⟩
  · cases hf : f.usesTop with
    | true => exact .inl (htop hf)
    | false => exact h.top.imp id fun hp => .inr ⟨hf, hp⟩
  · have hs := hstores v
    rw [heq] at hs
    exact absurd hs (by simp [Frame.stores])

section

variable (h : Shape Impl (f :: fs) t) (hstores : ∀ v, f.stores v = false)
include h hstores

theorem drop : Shape Impl fs t := by
  refine ⟨h.idle.imp id fun hp => ?_, h.top.imp id fun hp => ?_,
    fun v hv => h.below v (hv.imp id Vacated.cons), fun v hv => h.vacant v hv.cons, h.layered.2.2⟩
  · exact (hp.resolve_left (by rw [hstores]; exact Bool.false_ne_true)).2
  · exact (hp.resolve_left (by rw [hstores]; exact Bool.false_ne_true)).2

theorem top_of_usesTop (hf : f.usesTop = true) : (Impl t).isSome = true := by
  refine h.top.resolve_right fun hp => ?_
  rcases hp with hs | ⟨hnot, -⟩
  · rw [hstores] at hs
    cases hs
  · rw [hf] at hnot
    cases hnot

theorem idle_of_isBase (hf : f.isBase = true) : (Impl MOTION_SLOT_IDLE).isSome = true := by
  refine h.idle.resolve_right fun hp => ?_
  rcases hp with hs | ⟨hnot, -⟩
  · rw [hstores] at hs
    cases hs
  · rw [hf] at hnot
    cases hnot

end

theorem isSome_top (h : Shape Impl fs t) (hnot : ¬ Vacated fs t) : (Impl t).isSome = true :=
  h.top.resolve_right fun hp => hnot hp.vacated

theorem vacate (h : Shape Impl fs t) (ht : t' = t ∧ slot ≤ t ∨ t' = slot ∧ t < slot)
    (hstatic : Vacated fs slot → m = .si_idleMovement) :
    Shape (Function.update Impl slot none) (.mutate m slot :: fs) t' := by
  have hsome (v) (hv : (Function.update Impl slot none v).isSome = true) :
      v ≠ slot ∧ (Impl v).isSome = true := by
    by_cases heq : v = slot
    · rw [heq, Function.update_self] at hv
      cases hv
    · rw [Function.update_of_ne heq] at hv
      exact ⟨heq, hv⟩
  have hstays (v) (hv : (Impl v).isSome = true) (hne : v ≠ slot) :
      (Function.update Impl slot none v).isSome = true := by
    rw [Function.update_of_ne hne]
    exact hv
  have hpush {user : Frame → Bool} (huser : user (.mutate m slot) = false) (v)
      (hv : (Impl v).isSome = true ∨ Pending user v fs) :
      (Function.update Impl slot none v).isSome = true ∨
        Pending user v (.mutate m slot :: fs) := by
    by_cases heq : slot = v
    · exact .inr (.inl (decide_eq_true heq))
    · exact hv.imp (fun hv => hstays v hv (Ne.symm heq)) fun hp => .inr ⟨huser, hp⟩
  refine ⟨hpush rfl _ h.idle, ?_, fun v hv => ?_, fun v hv g hg => ?_,
    ⟨fun hloop => (Bool.false_ne_true hloop).elim, fun m' v heq hv => ?_, h.layered⟩⟩
  · rcases ht with ⟨rfl, -⟩ | ⟨rfl, -⟩
    · exact hpush rfl _ h.top
    · exact .inr (.inl (decide_eq_true rfl))
  · have hle : v = slot ∨ v ≤ t := by
      rcases hv with hv | hv
      · exact .inr (h.below v (.inl (hsome v hv).2))
      · rcases vacated_cons hv with hs | hv
        · exact .inl (of_decide_eq_true hs).symm
        · exact .inr (h.below v (.inr hv))
    rcases ht with ⟨rfl, hle'⟩ | ⟨rfl, hlt⟩
    · exact hle.elim (fun heq => heq ▸ hle') id
    · exact hle.elim le_of_eq fun hle => hle.trans hlt.le
  · by_cases heq : v = slot
    · rw [heq, Function.update_self] at hg
      cases hg
    · rw [Function.update_of_ne heq] at hg
      refine h.vacant v ((vacated_cons hv).resolve_left fun hs => ?_) g hg
      exact heq (of_decide_eq_true hs).symm
  · cases heq
    exact hstatic hv

/-- **The vacated slot is filled.** -/
theorem store (h : Shape Impl (.mutate m slot :: fs) t) :
    Shape (Function.update Impl slot (some m)) fs t := by
  have hfill {user : Frame → Bool} (v)
      (hv : (Impl v).isSome = true ∨ Pending user v (.mutate m slot :: fs)) :
      (Function.update Impl slot (some m) v).isSome = true ∨ Pending user v fs := by
    by_cases heq : v = slot
    · left
      rw [heq, Function.update_self]
      rfl
    · rw [Function.update_of_ne heq]
      refine hv.imp id fun hp => (hp.resolve_left fun hs => ?_).2
      exact heq (of_decide_eq_true hs).symm
  refine ⟨hfill _ h.idle, hfill _ h.top, fun v hv => ?_, fun v hv g hg => ?_, h.layered.2.2⟩
  · by_cases heq : v = slot
    · exact h.below v (.inr ⟨m, by rw [heq]; exact List.mem_cons_self⟩)
    · rw [Function.update_of_ne heq] at hv
      exact h.below v (hv.imp id Vacated.cons)
  · by_cases heq : v = slot
    · rw [heq, Function.update_self] at hg
      rw [← Option.some.inj hg]
      exact h.layered.2.1 m slot rfl (heq ▸ hv)
    · rw [Function.update_of_ne heq] at hg
      exact h.vacant v hv.cons g hg

/-- **The top is taken away.** -/
theorem pop (h : Shape Impl fs t) (hlt : t' < t) (hsome : (Impl t').isSome = true)
    (hnone : ∀ v, t' < v → v < t → Impl v = none) (hvacated : ∀ v, Vacated fs v → v ≤ t') :
    Shape (Function.update Impl t none) fs t' := by
  have hstays (v) (hne : v ≠ t) : Function.update Impl t none v = Impl v :=
    Function.update_of_ne hne _ _
  refine ⟨?_, ?_, fun v hv => ?_, fun v hv g hg => ?_, h.layered⟩
  · rw [hstays _ (lt_of_le_of_lt (Fin.zero_le t') hlt).ne]
    exact h.idle
  · left
    rw [hstays _ hlt.ne]
    exact hsome
  · rcases hv with hv | hv
    · by_cases heq : v = t
      · rw [heq, Function.update_self] at hv
        cases hv
      · rw [hstays v heq] at hv
        by_contra hle
        rw [hnone v (not_le.mp hle) (lt_of_le_of_ne (h.below v (.inl hv)) heq)] at hv
        cases hv
    · exact hvacated v hv
  · rw [hstays v (lt_of_le_of_lt (hvacated v hv) hlt).ne] at hg
    exact h.vacant v hv g hg

end Shape

/-! ## The loop down the slots -/

theorem slotOf_val (t : MovementSlot) : slotOf t.val = some t := by
  have h : (0 : ℤ) ≤ (t.val : ℤ) ∧ (t.val : ℤ) < MAX_MOTION_SLOT := by
    omega
  unfold slotOf
  rw [dif_pos h]
  rfl

/-- **The loop finds the highest slot with a generator**, when there is one. -/
theorem scanBelow_spec {n : ℕ} (hn : n ≤ MAX_MOTION_SLOT) {t₀ : MovementSlot} (h₀ : t₀.val < n)
    (hsome : (Impl t₀).isSome = true) :
    ∃ t, scanBelow Impl n = some t ∧ t₀ ≤ t ∧ t.val < n ∧ (Impl t).isSome = true ∧
      ∀ v, t < v → v.val < n → Impl v = none := by
  induction n with
  | zero => exact absurd h₀ (Nat.not_lt_zero _)
  | succ n ih =>
    have hlt : n < MAX_MOTION_SLOT := hn
    unfold scanBelow
    rw [dif_pos hlt]
    by_cases hhere : (Impl ⟨n, hlt⟩).isSome = true
    · rw [if_pos hhere]
      refine ⟨⟨n, hlt⟩, rfl, Nat.le_of_lt_succ h₀, Nat.lt_succ_self n, hhere, fun v hv hvn => ?_⟩
      have hgt : n < v.val := hv
      omega
    · rw [if_neg hhere]
      have hne : t₀.val ≠ n := fun heq => by
        have hsame : t₀ = ⟨n, hlt⟩ := Fin.ext heq
        exact hhere (hsame ▸ hsome)
      obtain ⟨t, ht, hle, htn, htsome, hnone⟩ := ih (Nat.le_of_lt hlt) (by omega)
      refine ⟨t, ht, hle, by omega, htsome, fun v hv hvn => ?_⟩
      by_cases heq : v.val = n
      · have hsame : v = ⟨n, hlt⟩ := Fin.ext heq
        rw [hsame]
        exact Option.not_isSome_iff_eq_none.mp hhere
      · exact hnone v hv (by omega)

/-! ## The places of a generator -/

/-- One if something holds. -/
def one (p : Prop) [Decidable p] : ℕ := if p then 1 else 0

variable (Impl)

/-- In how many slots a generator is. -/
def held (g : Generator) : ℕ :=
  one (Impl MOTION_SLOT_IDLE = some g) + one (Impl MOTION_SLOT_ACTIVE = some g) +
    one (Impl MOTION_SLOT_CONTROLLED = some g)

theorem held_update (v : MovementSlot) (x : Option Generator) (g : Generator) :
    held (Function.update Impl v x) g + one (Impl v = some g) =
      held Impl g + one (x = some g) := by
  have hv : v = MOTION_SLOT_IDLE ∨ v = MOTION_SLOT_ACTIVE ∨ v = MOTION_SLOT_CONTROLLED := by
    revert v
    decide
  unfold held
  rcases hv with rfl | rfl | rfl
  · rw [Function.update_self, Function.update_of_ne (by decide), Function.update_of_ne (by decide)]
    omega
  · rw [Function.update_self, Function.update_of_ne (by decide), Function.update_of_ne (by decide)]
    omega
  · rw [Function.update_self, Function.update_of_ne (by decide), Function.update_of_ne (by decide)]
    omega

theorem held_update_none (v : MovementSlot) (g : Generator) :
    held (Function.update Impl v none) g + one (Impl v = some g) = held Impl g := by
  have hupdate := held_update Impl v none g
  exact hupdate

variable {Impl}

theorem held_pos (h : Impl v = some g) : 0 < held Impl g := by
  have hupdate := held_update Impl v none g
  rw [h] at hupdate
  simp only [one, if_true, reduceCtorEq, if_false] at hupdate
  omega

namespace World

variable (w : World) (g : Generator)

/-- How often a generator is in a slot or is to be deleted after an update. -/
def kept : ℕ := held w.Impl g + (w._expList.getD []).count g

/-- **How often there is a generator**, also when it was destroyed. -/
def copies : ℕ :=
  w.kept g + w.frames.countP (fun f => f.holds = some g) + w.destroyed.count g

end World

theorem countP_holds_cons {x : Option Generator} (h : f.holds = x) (fs : List Frame)
    (g : Generator) :
    (f :: fs).countP (fun f => f.holds = some g) =
      fs.countP (fun f => f.holds = some g) + one (x = some g) := by
  subst h
  rw [List.countP_cons]
  simp only [one, decide_eq_true_eq]

theorem count_cons_eq (mg : Generator) (mgs : List Generator) (g : Generator) :
    (mg :: mgs).count g = mgs.count g + one (some mg = some g) := by
  rw [List.count_cons]
  simp only [one, beq_iff_eq, Option.some.injEq]

@[simp] theorem one_none_eq_some (g : Generator) :
    one ((none : Option Generator) = some g) = 0 := rfl

/-! ## Updates -/

/-- The frames that there are while an `Update` runs, and when none does. -/
structure Mode (update : Bool) (fs : List Frame) : Prop where
  on : update = true → ∃ pre u, fs = pre ++ [.updating u, .updateEnd] ∧
    ∀ f ∈ pre, f.inUpdate = true
  off : update = false → ∀ f ∈ fs, f.outUpdate = true

namespace Mode

variable {update : Bool}

theorem push (h : Mode update fs) (hin : update = true → f.inUpdate = true)
    (hout : update = false → f.outUpdate = true) : Mode update (f :: fs) := by
  constructor
  · intro hon
    obtain ⟨pre, u, hfs, hpre⟩ := h.on hon
    refine ⟨f :: pre, u, by rw [hfs]; rfl, fun f' hf' => ?_⟩
    rcases List.mem_cons.mp hf' with rfl | hmem
    · exact hin hon
    · exact hpre f' hmem
  · intro hoff f' hf'
    rcases List.mem_cons.mp hf' with rfl | hmem
    · exact hout hoff
    · exact h.off hoff f' hmem

theorem drop (h : Mode update (f :: fs)) (hne : ∀ u, f ≠ .updating u) : Mode update fs := by
  constructor
  · intro hon
    obtain ⟨pre, u, hfs, hpre⟩ := h.on hon
    cases pre with
    | nil =>
      injection hfs with hf
      exact absurd hf (hne u)
    | cons f' pre =>
      injection hfs with _ hfs
      exact ⟨pre, u, hfs, fun f hf => hpre f (List.mem_cons_of_mem _ hf)⟩
  · intro hoff f' hf'
    exact h.off hoff f' (List.mem_cons_of_mem _ hf')

theorem done {u : Generator} (h : Mode update (.updating u :: fs)) :
    update = true ∧ fs = [.updateEnd] := by
  cases update with
  | false => exact absurd (h.off rfl _ List.mem_cons_self) Bool.false_ne_true
  | true =>
    obtain ⟨pre, u', hfs, hpre⟩ := h.on rfl
    refine ⟨rfl, ?_⟩
    cases pre with
    | nil =>
      injection hfs with _ hfs
    | cons f' pre =>
      injection hfs with hf _
      exact absurd (hpre f' List.mem_cons_self) (by rw [← hf]; exact Bool.false_ne_true)

theorem off_of_cons (h : Mode update (f :: fs)) (hin : f.inUpdate = false)
    (hne : ∀ u, f ≠ .updating u) : update = false := by
  cases update with
  | false => rfl
  | true =>
    obtain ⟨pre, u, hfs, hpre⟩ := h.on rfl
    cases pre with
    | nil =>
      injection hfs with hf
      exact absurd hf (hne u)
    | cons f' pre =>
      injection hfs with hf
      rw [hf, hpre f' List.mem_cons_self] at hin
      cases hin

theorem on_of_cons (h : Mode update (f :: fs)) (hout : f.outUpdate = false) : update = true := by
  cases update with
  | true => rfl
  | false =>
    rw [h.off rfl f List.mem_cons_self] at hout
    cases hout

theorem out_of_cons (h : Mode update (f :: fs)) (hin : f.inUpdate = false)
    (hne : ∀ u, f ≠ .updating u) : f.outUpdate = true :=
  h.off (h.off_of_cons hin hne) f List.mem_cons_self

theorem not_updating {u : Generator} (h : Mode false fs) : Frame.updating u ∉ fs :=
  fun hmem => Bool.false_ne_true (h.off rfl _ hmem)

theorem updateEnd_mem (h : Mode true fs) : Frame.updateEnd ∈ fs := by
  obtain ⟨pre, u, hfs, -⟩ := h.on rfl
  rw [hfs]
  exact List.mem_append_right _ (List.mem_cons_of_mem _ List.mem_cons_self)

end Mode

/-! ## The invariant -/

/-- **A stack in use**, whose top is `t`; a generator may be in the hand of the call. -/
structure Up (w : World) (t : MovementSlot) (hand : Option Generator) : Prop where
  top_eq : w._top = t.val
  fault : w.fault = none
  shape : Shape w.Impl w.frames t
  mode : Mode w.MMCF_UPDATE w.frames
  listed : w._expList.isSome = true → Frame.updateEnd ∈ w.frames ∨ Frame.expList ∈ w.frames
  accounts : ∀ a, w.copies (.alloc a) + one (hand = some (.alloc a)) = one (a < w.created)
  running : ∀ a, Frame.updating (.alloc a) ∈ w.frames →
    0 < w.kept (.alloc a) + one (hand = some (.alloc a))

namespace Up

variable {w : World} {hand : Option Generator} {reset : Bool}

section

variable (h : Up w t hand)
include h

theorem push (hplain : f.plain = true) (hin : w.MMCF_UPDATE = true → f.inUpdate = true)
    (hout : w.MMCF_UPDATE = false → f.outUpdate = true)
    (htop : f.usesTop = true → (w.Impl t).isSome = true)
    (hbase : f.isBase = true → (w.Impl MOTION_SLOT_IDLE).isSome = true)
    (hloop : f.isLoop = true → ∀ v, Vacated w.frames v → v = MOTION_SLOT_IDLE) :
    Up (w.push f) t hand := by
  have hstores (v) : f.stores v = false := by
    cases f <;> first | rfl | exact absurd hplain Bool.false_ne_true
  have hholds : f.holds = none := by
    cases f <;> first | rfl | exact absurd hplain Bool.false_ne_true
  have hcopies (g) : (w.push f).copies g = w.copies g := by
    unfold World.copies
    congr 2
    exact List.countP_cons_of_neg (by rw [hholds]; simp)
  refine ⟨h.top_eq, h.fault, h.shape.push hstores htop hbase hloop, h.mode.push hin hout,
    fun hs => (h.listed hs).imp (List.mem_cons_of_mem f) (List.mem_cons_of_mem f), fun a => ?_,
    fun a ha => h.running a ?_⟩
  · rw [hcopies]
    exact h.accounts a
  · refine (List.mem_cons.mp ha).resolve_left fun heq => ?_
    rw [← heq] at hplain
    cases hplain

theorem done (hfs : w.frames = f :: fs) (hstores : ∀ v, f.stores v = false)
    (hholds : f.holds = none) (hne : ∀ u, f ≠ .updating u)
    (hlisted : w._expList.isSome = true → Frame.updateEnd ∈ fs ∨ Frame.expList ∈ fs) :
    Up (w.left fs) t hand := by
  have hcopies (g) : (w.left fs).copies g = w.copies g := by
    unfold World.copies
    rw [hfs]
    congr 2
    exact (List.countP_cons_of_neg (by rw [hholds]; simp)).symm
  have hshape := h.shape
  have hmode := h.mode
  rw [hfs] at hshape hmode
  refine ⟨h.top_eq, h.fault, hshape.drop hstores, hmode.drop hne, hlisted, fun a => ?_,
    fun a ha => h.running a ?_⟩
  · rw [hcopies]
    exact h.accounts a
  · rw [hfs]
    exact List.mem_cons_of_mem f ha

theorem left (hfs : w.frames = f :: fs) (hplain : f.plain = true) : Up (w.left fs) t hand := by
  have hother {f' : Frame} (hmem : f' ∈ w.frames) (hnot : f'.plain = false) : f' ∈ fs := by
    rw [hfs] at hmem
    refine (List.mem_cons.mp hmem).resolve_left fun heq => ?_
    rw [heq, hplain] at hnot
    cases hnot
  refine h.done hfs (fun v => ?_) ?_ (fun u heq => ?_) fun hs =>
    (h.listed hs).imp (fun hm => hother hm rfl) fun hm => hother hm rfl
  · cases f <;> first | rfl | exact absurd hplain Bool.false_ne_true
  · cases f <;> first | rfl | exact absurd hplain Bool.false_ne_true
  · rw [heq] at hplain
    cases hplain

theorem shape_cons (hfs : w.frames = f :: fs) : Shape w.Impl (f :: fs) t :=
  hfs ▸ h.shape

/-! ### Callbacks -/

theorem running_push (g : Generator) : Up (w.push (.running g)) t hand :=
  h.push rfl (fun _ => rfl) (fun _ => rfl) nofun nofun
    nofun

theorem onTop (hsome : (w.Impl t).isSome = true) : Up w.onTop t hand := by
  obtain ⟨g, hg⟩ := Option.isSome_iff_exists.mp hsome
  unfold World.onTop
  rw [h.top_eq, slotOf_val]
  dsimp only
  rw [hg]
  exact h.running_push g

theorem resetTop (hsome : (w.Impl t).isSome = true) (reset : Bool) :
    Up (w.resetTop reset) t hand := by
  have hpush : Up (w.push .initTop) t hand :=
    h.push rfl (fun _ => rfl) (fun _ => rfl) nofun nofun
      nofun
  unfold World.resetTop
  rw [h.top_eq, slotOf_val]
  dsimp only
  split_ifs
  · exact hpush.onTop hsome
  · exact h.onTop hsome
  · exact h

end

/-! ### Deletions -/

theorem of_isStatic (h : Up w t (some g)) (hstatic : g.isStatic = true) : Up w t none := by
  have hnone (a : ℕ) : one (some g = some (.alloc a)) =
      one ((none : Option Generator) = some (.alloc a)) := by
    cases g with
    | si_idleMovement => rfl
    | alloc _ => cases hstatic
  exact ⟨h.top_eq, h.fault, h.shape, h.mode, h.listed, fun a => hnone a ▸ h.accounts a,
    fun a ha => hnone a ▸ h.running a ha⟩

theorem directDelete (h : Up w t (some g))
    (hnot : g.isStatic = false → Frame.updating g ∉ w.frames) :
    Up (w.DirectDelete g) t none := by
  unfold World.DirectDelete
  by_cases hstatic : g.isStatic = true
  · rw [if_pos hstatic]
    exact h.of_isStatic hstatic
  · rw [if_neg hstatic]
    have hshape : Shape w.Impl (.running g :: .destroy g :: w.frames) t := by
      refine Shape.push (Shape.push h.shape ?_ ?_ ?_ ?_) ?_ ?_ ?_ ?_
      all_goals first | exact fun _ => rfl | exact nofun
    have hmode : Mode w.MMCF_UPDATE (.running g :: .destroy g :: w.frames) :=
      (h.mode.push (fun _ => rfl) fun _ => rfl).push (fun _ => rfl) fun _ => rfl
    have hmem {f : Frame} (hf : f ∈ w.frames) : f ∈ .running g :: .destroy g :: w.frames :=
      List.mem_cons_of_mem _ (List.mem_cons_of_mem _ hf)
    refine ⟨h.top_eq, h.fault, hshape, hmode, fun hs => (h.listed hs).imp hmem hmem, fun a => ?_,
      fun a ha => ?_⟩
    · have haccounts := h.accounts a
      rw [World.copies, countP_holds_cons (x := none) rfl, countP_holds_cons (x := some g) rfl]
      simp only [World.copies, World.kept, one_none_eq_some] at haccounts ⊢
      omega
    · have hup : Frame.updating (.alloc a) ∈ w.frames := by
        rcases List.mem_cons.mp ha with heq | ha
        · cases heq
        · exact (List.mem_cons.mp ha).resolve_left nofun
      have hne : ¬ some g = some (.alloc a) := fun heq =>
        hnot (Bool.eq_false_of_not_eq_true hstatic) (Option.some.inj heq ▸ hup)
      have hpos := h.running a hup
      rw [one, if_neg hne] at hpos
      exact hpos

theorem delayedDelete (h : Up w t (some g)) (hon : w.MMCF_UPDATE = true) :
    Up (w.DelayedDelete g) t none := by
  unfold World.DelayedDelete
  by_cases hstatic : g.isStatic = true
  · rw [if_pos hstatic]
    exact h.of_isStatic hstatic
  · rw [if_neg hstatic]
    have hcount (a : ℕ) : (w._expList.getD [] ++ [g]).count (.alloc a) =
        (w._expList.getD []).count (.alloc a) + one (some g = some (.alloc a)) := by
      rw [List.count_append, count_cons_eq, List.count_nil, Nat.zero_add]
    have hmode := h.mode
    rw [hon] at hmode
    refine ⟨h.top_eq, h.fault, h.shape, h.mode, fun _ => .inl hmode.updateEnd_mem, fun a => ?_,
      fun a ha => ?_⟩
    · have haccounts := h.accounts a
      simp only [World.copies, World.kept, Option.getD_some, hcount, one_none_eq_some]
        at haccounts ⊢
      omega
    · have hpos := h.running a ha
      simp only [World.kept, Option.getD_some, hcount, one_none_eq_some] at hpos ⊢
      omega

theorem destroyed (h : Up w t none) (hfs : w.frames = .destroy g :: fs) :
    Up { w with frames := fs, destroyed := g :: w.destroyed } t none := by
  have hshape := h.shape
  have hmode := h.mode
  have hlisted := h.listed
  rw [hfs] at hshape hmode hlisted
  have hmem {f : Frame} (hf : f ∈ .destroy g :: fs) (hne : f ≠ .destroy g) : f ∈ fs :=
    (List.mem_cons.mp hf).resolve_left hne
  refine ⟨h.top_eq, h.fault, hshape.drop fun _ => rfl, hmode.drop fun u => Frame.noConfusion,
    fun hs => ?_, fun a => ?_, fun a ha => ?_⟩
  · exact (hlisted hs).imp (fun hm => hmem hm Frame.noConfusion)
      fun hm => hmem hm Frame.noConfusion
  · have haccounts := h.accounts a
    rw [World.copies, hfs, countP_holds_cons (x := some g) rfl] at haccounts
    simp only [World.copies, World.kept, count_cons_eq] at haccounts ⊢
    omega
  · exact h.running a (by rw [hfs]; exact List.mem_cons_of_mem _ ha)

/-! ### The top -/

/-- **`pop` finds the next generator below the top**, which is in the hand of the call. -/
theorem pop (h : Up w t none) {t₀ : MovementSlot} (hlt : t₀ < t)
    (hsome : (w.Impl t₀).isSome = true) (hvacated : ∀ v, Vacated w.frames v → v ≤ t₀) :
    ∃ t', t' < t ∧ (w.Impl t').isSome = true ∧
      (∀ k, w.pop k =
        k (w.Impl t) { w with Impl := Function.update w.Impl t none, _top := t'.val }) ∧
      Up { w with Impl := Function.update w.Impl t none, _top := t'.val } t' (w.Impl t) := by
  have hother (v : MovementSlot) (hne : v ≠ t) : Function.update w.Impl t none v = w.Impl v :=
    Function.update_of_ne hne _ _
  have hsome' : (Function.update w.Impl t none t₀).isSome = true := by
    rw [hother t₀ hlt.ne]
    exact hsome
  obtain ⟨t', ht', hle, hltn, htsome, hnone⟩ :=
    scanBelow_spec (n := t.val + 1) t.isLt (Nat.lt_succ_of_lt hlt) hsome'
  have hne : t' ≠ t := fun heq => by
    rw [heq, Function.update_self] at htsome
    cases htsome
  have hlt' : t' < t := lt_of_le_of_ne (Nat.le_of_lt_succ hltn) hne
  rw [hother t' hne] at htsome
  refine ⟨t', hlt', htsome, fun k => ?_, ?_⟩
  · have hsize : ((t.val : ℤ) + 1).toNat = t.val + 1 := by omega
    unfold World.pop World.scan World.size
    rw [h.top_eq, slotOf_val]
    dsimp only
    rw [hsize, ht']
    rfl
  · have hkept (a : ℕ) := held_update_none w.Impl t (.alloc a)
    refine ⟨rfl, h.fault, h.shape.pop hlt' htsome (fun v hv hvt => ?_) fun v hv =>
      (hvacated v hv).trans hle, h.mode, h.listed, fun a => ?_, fun a ha => ?_⟩
    · rw [← hother v hvt.ne]
      exact hnone v hv (Nat.lt_succ_of_lt hvt)
    · have haccounts := h.accounts a
      have hkept := hkept a
      simp only [World.copies, World.kept, one_none_eq_some] at haccounts ⊢
      omega
    · have hpos := h.running a ha
      have hkept := hkept a
      simp only [World.kept, one_none_eq_some] at hpos ⊢
      omega

/-! ### `Mutate` -/

/-- **A slot is vacated**: what was in it is in the hand now, and the new generator waits. -/
theorem vacate (h : Up w t (some m)) (ht : t' = t ∧ slot ≤ t ∨ t' = slot ∧ t < slot)
    (hstatic : Vacated w.frames slot → m = .si_idleMovement)
    (hrunning : ∀ a, Frame.updating (.alloc a) ∈ w.frames → 0 < w.kept (.alloc a)) :
    Up { w with
      Impl := Function.update w.Impl slot none
      _top := t'.val
      frames := .mutate m slot :: w.frames } t' (w.Impl slot) := by
  refine ⟨rfl, h.fault, h.shape.vacate ht hstatic, h.mode.push (fun _ => rfl) fun _ => rfl,
    fun hs => (h.listed hs).imp (List.mem_cons_of_mem _) (List.mem_cons_of_mem _), fun a => ?_,
    fun a ha => ?_⟩
  · have haccounts := h.accounts a
    have hheld := held_update_none w.Impl slot (.alloc a)
    rw [World.copies, countP_holds_cons (x := some m) rfl]
    simp only [World.copies, World.kept] at haccounts ⊢
    omega
  · have hup := (List.mem_cons.mp ha).resolve_left Frame.noConfusion
    have hpos := hrunning a hup
    have hheld := held_update_none w.Impl slot (.alloc a)
    simp only [World.kept] at hpos ⊢
    omega

/-- **`Mutate`**, where a new generator is in the hand of the call. -/
theorem mutate (h : Up w t (some m)) (hstatic : Vacated w.frames slot → m = .si_idleMovement)
    (hrunning : ∀ a, Frame.updating (.alloc a) ∈ w.frames → 0 < w.kept (.alloc a))
    (hupdating : ∀ g, w.Impl slot = some g → Frame.updating g ∈ w.frames →
      g.isStatic = true ∨ t = slot) :
    ∃ t', Up (w.Mutate m slot) t' none := by
  unfold World.Mutate
  cases hslot : w.Impl slot with
  | some curr =>
    have hle : slot ≤ t := h.shape.below slot (.inl (by rw [hslot]; rfl))
    have hvacate := h.vacate (.inl ⟨rfl, hle⟩) hstatic hrunning
    rw [← h.top_eq, hslot] at hvacate
    refine ⟨t, ?_⟩
    dsimp only
    split_ifs with hdelayed
    · exact hvacate.delayedDelete hdelayed.2
    · refine hvacate.directDelete fun hown hmem => ?_
      have hup := (List.mem_cons.mp hmem).resolve_left Frame.noConfusion
      rcases hupdating curr hslot hup with hst | htop
      · rw [hown] at hst
        cases hst
      · -- it is on top, so that no update runs
        have hoff : w.MMCF_UPDATE = false := by
          cases hmode : w.MMCF_UPDATE with
          | false => rfl
          | true => exact absurd ⟨by rw [h.top_eq, htop], hmode⟩ hdelayed
        have hmode := h.mode
        rw [hoff] at hmode
        exact hmode.not_updating hup
  | none =>
    have hself : Function.update w.Impl slot none = w.Impl := by
      rw [← hslot]
      exact Function.update_eq_self slot w.Impl
    by_cases hlt : w._top < (slot.val : ℤ)
    · rw [if_pos hlt]
      have hlt' : t < slot := by
        rw [h.top_eq] at hlt
        exact Int.ofNat_lt.mp hlt
      have hvacate := h.vacate (.inr ⟨rfl, hlt'⟩) hstatic hrunning
      rw [hself, hslot] at hvacate
      exact ⟨slot, hvacate⟩
    · rw [if_neg hlt]
      have hle : slot ≤ t := by
        rw [h.top_eq] at hlt
        exact Int.ofNat_le.mp (not_lt.mp hlt)
      have hvacate := h.vacate (.inl ⟨rfl, hle⟩) hstatic hrunning
      rw [hself, hslot, ← h.top_eq] at hvacate
      exact ⟨t, hvacate⟩

theorem made (h : Up w t none) :
    Up { w with created := w.created + 1 } t (some (.alloc w.created)) := by
  refine ⟨h.top_eq, h.fault, h.shape, h.mode, h.listed, fun a => ?_, fun a ha => ?_⟩
  · have haccounts := h.accounts a
    have hcopies : World.copies { w with created := w.created + 1 } (.alloc a) =
        w.copies (.alloc a) := rfl
    rw [hcopies]
    simp only [one, Option.some.injEq, Generator.alloc.injEq, reduceCtorEq, if_false]
      at haccounts ⊢
    split_ifs at haccounts ⊢ <;> omega
  · exact lt_of_lt_of_le (h.running a ha) (Nat.add_le_add_left (Nat.zero_le _) _)

theorem with_static (h : Up w t none) : Up w t (some .si_idleMovement) := by
  have hnone (a : ℕ) : one (some Generator.si_idleMovement = some (.alloc a)) =
      one ((none : Option Generator) = some (.alloc a)) := rfl
  exact ⟨h.top_eq, h.fault, h.shape, h.mode, h.listed, fun a => hnone a ▸ h.accounts a,
    fun a ha => hnone a ▸ h.running a ha⟩

theorem mutateNew (h : Up w t none) {new : Bool} (hstatic : Vacated w.frames slot → new = false)
    (hupdating : ∀ g, w.Impl slot = some g → Frame.updating g ∈ w.frames →
      g.isStatic = true ∨ t = slot) :
    ∃ t', Up (w.mutateNew new slot) t' none := by
  have hrunning (a : ℕ) (ha : Frame.updating (.alloc a) ∈ w.frames) : 0 < w.kept (.alloc a) :=
    h.running a ha
  cases new with
  | false => exact h.with_static.mutate (fun _ => rfl) hrunning hupdating
  | true =>
    exact h.made.mutate (fun hv => absurd (hstatic hv).symm Bool.false_ne_true) hrunning hupdating

/-- **The second half of `Mutate`.** -/
theorem store (h : Up w t none) (hfs : w.frames = .mutate m slot :: fs) :
    Up ((w.left fs).store m slot) t none := by
  have hshape := h.shape
  have hmode := h.mode
  have hlisted := h.listed
  rw [hfs] at hshape hmode hlisted
  have hmem {f : Frame} (hf : f ∈ .mutate m slot :: fs) (hne : f ≠ .mutate m slot) : f ∈ fs :=
    (List.mem_cons.mp hf).resolve_left hne
  -- the slot is empty, or the static generator is lost
  have hold (a : ℕ) : one (w.Impl slot = some (.alloc a)) = 0 := by
    refine if_neg fun heq => ?_
    have hst := hshape.vacant slot ⟨m, List.mem_cons_self⟩ _ heq
    cases hst
  have hfilled (needInit : MovementSlot → Bool) :
      Up { w with
        Impl := Function.update w.Impl slot (some m)
        _needInit := needInit
        frames := fs } t none := by
    refine ⟨h.top_eq, h.fault, hshape.store, hmode.drop fun u => Frame.noConfusion, fun hs => ?_,
      fun a => ?_, fun a ha => ?_⟩
    · exact (hlisted hs).imp (fun hm => hmem hm Frame.noConfusion)
        fun hm => hmem hm Frame.noConfusion
    · have haccounts := h.accounts a
      have hheld := held_update w.Impl slot (some m) (.alloc a)
      have hold := hold a
      rw [World.copies, hfs, countP_holds_cons (x := some m) rfl] at haccounts
      simp only [World.copies, World.kept] at haccounts ⊢
      omega
    · have hpos := h.running a (by rw [hfs]; exact List.mem_cons_of_mem _ ha)
      have hheld := held_update w.Impl slot (some m) (.alloc a)
      have hold := hold a
      simp only [World.kept] at hpos ⊢
      omega
  unfold World.store
  dsimp only
  split_ifs
  · exact hfilled _
  · exact (hfilled _).running_push m

/-! ### `Clear` -/

theorem one_lt_size (h : Up w t hand) : 1 < w.size ↔ MOTION_SLOT_IDLE < t := by
  have hval : MOTION_SLOT_IDLE < t ↔ 0 < t.val := Iff.rfl
  unfold World.size
  rw [h.top_eq, hval]
  omega

theorem not_updating (h : Up w t hand) (hoff : w.MMCF_UPDATE = false) (g : Generator) :
    Frame.updating g ∉ w.frames := by
  have hmode := h.mode
  rw [hoff] at hmode
  exact hmode.not_updating

theorem pop_loop (h : Up w t none) (hlt : MOTION_SLOT_IDLE < t)
    (hidle : (w.Impl MOTION_SLOT_IDLE).isSome = true)
    (hvacated : ∀ v, Vacated w.frames v → v = MOTION_SLOT_IDLE)
    (hin : w.MMCF_UPDATE = true → f.inUpdate = true)
    (hout : w.MMCF_UPDATE = false → f.outUpdate = true) (hplain : f.plain = true) :
    ∃ t' w', (∀ k, w.pop k = k (w.Impl t) w') ∧ w'.frames = w.frames ∧
      w'.MMCF_UPDATE = w.MMCF_UPDATE ∧ Up (w'.push f) t' (w.Impl t) := by
  obtain ⟨t', hlt', hsome, hpop, hup⟩ :=
    h.pop hlt hidle fun v hv => le_of_eq (hvacated v hv)
  refine ⟨t', _, hpop, rfl, rfl, hup.push hplain hin hout (fun _ => ?_) (fun _ => ?_) ?_⟩
  · dsimp only
    rw [Function.update_of_ne hlt'.ne]
    exact hsome
  · dsimp only
    rw [Function.update_of_ne hlt.ne]
    exact hidle
  · exact fun _ => hvacated

theorem directClean (h : Up w t none) (hoff : w.MMCF_UPDATE = false)
    (hidle : (w.Impl MOTION_SLOT_IDLE).isSome = true)
    (hvacated : ∀ v, Vacated w.frames v → v = MOTION_SLOT_IDLE) (reset : Bool) :
    ∃ t', Up (w.DirectClean reset) t' none := by
  unfold World.DirectClean
  by_cases hlt : MOTION_SLOT_IDLE < t
  · rw [if_pos (h.one_lt_size.mpr hlt)]
    obtain ⟨t', w', hpop, hframes, hmode, hup⟩ :=
      h.pop_loop (f := .clean reset) hlt hidle hvacated
        (fun hon => absurd (hoff.symm.trans hon) Bool.false_ne_true) (fun _ => rfl) rfl
    rw [hpop]
    refine ⟨t', ?_⟩
    cases htop : w.Impl t with
    | none =>
      rw [htop] at hup
      exact hup
    | some g =>
      rw [htop] at hup
      exact hup.directDelete fun _ => hup.not_updating (hmode.trans hoff) g
  · rw [if_neg (fun hsize => hlt (h.one_lt_size.mp hsize))]
    have hzero : t = MOTION_SLOT_IDLE := Fin.le_zero_iff.mp (not_lt.mp hlt)
    exact ⟨t, h.resetTop (hzero ▸ hidle) reset⟩

theorem delayedClean (h : Up w t none) (hon : w.MMCF_UPDATE = true)
    (hidle : (w.Impl MOTION_SLOT_IDLE).isSome = true)
    (hvacated : ∀ v, Vacated w.frames v → v = MOTION_SLOT_IDLE) :
    ∃ t', Up w.DelayedClean t' none := by
  unfold World.DelayedClean
  by_cases hlt : MOTION_SLOT_IDLE < t
  · rw [if_pos (h.one_lt_size.mpr hlt)]
    obtain ⟨t', w', hpop, hframes, hmode, hup⟩ :=
      h.pop_loop (f := .delayedClean) hlt hidle hvacated (fun _ => rfl)
        (fun hoff => absurd (hoff.symm.trans hon) Bool.false_ne_true) rfl
    rw [hpop]
    refine ⟨t', ?_⟩
    cases htop : w.Impl t with
    | none =>
      rw [htop] at hup
      exact hup
    | some g =>
      rw [htop] at hup
      exact hup.delayedDelete (hmode.trans hon)
  · rw [if_neg (fun hsize => hlt (h.one_lt_size.mp hsize))]
    exact ⟨t, h⟩

theorem with_reset (h : Up w t none) (reset : Bool) :
    Up { w with MMCF_RESET := reset } t none :=
  ⟨h.top_eq, h.fault, h.shape, h.mode, h.listed, h.accounts, h.running⟩

/-! ### `MovementExpired` -/

theorem scan_eq (h : Up w t hand) (hsome : (w.Impl t).isSome = true) : w.scan = some w := by
  have hsize : w.size.toNat = t.val + 1 := by
    unfold World.size
    rw [h.top_eq]
    omega
  obtain ⟨t', ht', hle, hlt, -, -⟩ := scanBelow_spec t.isLt (Nat.lt_succ_self t.val) hsome
  have heq : t' = t := le_antisymm (Nat.le_of_lt_succ hlt) hle
  unfold World.scan
  rw [hsize, ht', heq, Option.map_some, ← h.top_eq]

theorem not_empty (h : Up w t hand) : ¬ w.empty = true := by
  unfold World.empty
  rw [h.top_eq, decide_eq_true_eq]
  omega

theorem expireEnd (h : Up w t none) (hsome : (w.Impl t).isSome = true) (reset : Bool) :
    Up (w.expireEnd reset) t none := by
  unfold World.expireEnd
  rw [h.scan_eq hsome]
  dsimp only
  rw [if_neg h.not_empty]
  exact h.resetTop hsome reset

theorem delayedExpireEnd (h : Up w t none) (hsome : (w.Impl t).isSome = true) :
    Up w.delayedExpireEnd t none := by
  unfold World.delayedExpireEnd
  rw [h.scan_eq hsome]
  exact h

end Up

/-- **What is left when the top is taken away**: a generator below the top, and no vacated slot
above it. -/
def CanExpire (w : World) : Prop :=
  ∃ t : MovementSlot, (w.Impl t).isSome = true ∧
    (t.val < w._top ∨ w._top = 0 ∧ t = MOTION_SLOT_IDLE) ∧
    ∀ v, Vacated w.frames v → v ≤ t

namespace Up

variable {w : World} {hand : Option Generator} {reset : Bool}

theorem pop_expire (h : Up w t none) (hcan : CanExpire w) (hlt : MOTION_SLOT_IDLE < t)
    (hin : w.MMCF_UPDATE = true → f.inUpdate = true)
    (hout : w.MMCF_UPDATE = false → f.outUpdate = true) (hplain : f.plain = true)
    (hbase : f.isBase = false) (hloop : f.isLoop = false) :
    ∃ t' w' g, (∀ k, w.pop k = k (some g) w') ∧ w'.frames = w.frames ∧
      w'.MMCF_UPDATE = w.MMCF_UPDATE ∧ Up (w'.push f) t' (some g) := by
  obtain ⟨t₀, hsome₀, hbelow, hvacated⟩ := hcan
  have hlt₀ : t₀ < t := by
    rw [h.top_eq] at hbelow
    have hpos : 0 < t.val := hlt
    exact hbelow.elim (fun hlt => Int.ofNat_lt.mp hlt) fun hzero => by omega
  obtain ⟨g, hg⟩ := Option.isSome_iff_exists.mp
    (h.shape.isSome_top fun hv => not_le.mpr hlt₀ (hvacated t hv))
  obtain ⟨t', hlt', hsome, hpop, hup⟩ := h.pop hlt₀ hsome₀ hvacated
  rw [hg] at hpop hup
  refine ⟨t', _, g, hpop, rfl, rfl, hup.push hplain hin hout (fun _ => ?_) (fun hf => ?_)
    fun hf => ?_⟩
  · dsimp only
    rw [Function.update_of_ne hlt'.ne]
    exact hsome
  · rw [hbase] at hf
    cases hf
  · rw [hloop] at hf
    cases hf

theorem isSome_of_canExpire (h : Up w t none) (hcan : CanExpire w)
    (hnot : ¬ MOTION_SLOT_IDLE < t) : (w.Impl t).isSome = true := by
  have hzero : t = MOTION_SLOT_IDLE := Fin.le_zero_iff.mp (not_lt.mp hnot)
  obtain ⟨t₀, hsome₀, hbelow, -⟩ := hcan
  rw [h.top_eq, hzero] at hbelow
  rcases hbelow with hlt | ⟨-, heq⟩
  · have hneg : (t₀.val : ℤ) < 0 := hlt
    omega
  · rw [heq] at hsome₀
    rw [hzero]
    exact hsome₀

theorem directExpire (h : Up w t none) (hoff : w.MMCF_UPDATE = false) (hcan : CanExpire w)
    (reset : Bool) : ∃ t', Up (w.DirectExpire reset) t' none := by
  unfold World.DirectExpire
  by_cases hlt : MOTION_SLOT_IDLE < t
  · rw [if_pos (h.one_lt_size.mpr hlt)]
    obtain ⟨t', w', g, hpop, hframes, hmode, hup⟩ :=
      h.pop_expire (f := .expire reset) hcan hlt
        (fun hon => absurd (hoff.symm.trans hon) Bool.false_ne_true) (fun _ => rfl) rfl rfl rfl
    rw [hpop]
    exact ⟨t', hup.directDelete fun _ => hup.not_updating (hmode.trans hoff) g⟩
  · rw [if_neg (fun hsize => hlt (h.one_lt_size.mp hsize))]
    exact ⟨t, h.expireEnd (h.isSome_of_canExpire hcan hlt) reset⟩

theorem delayedExpire (h : Up w t none) (hon : w.MMCF_UPDATE = true) (hcan : CanExpire w) :
    ∃ t', Up w.DelayedExpire t' none := by
  unfold World.DelayedExpire
  by_cases hlt : MOTION_SLOT_IDLE < t
  · rw [if_pos (h.one_lt_size.mpr hlt)]
    obtain ⟨t', w', g, hpop, hframes, hmode, hup⟩ :=
      h.pop_expire (f := .delayedExpire) hcan hlt (fun _ => rfl)
        (fun hoff => absurd (hoff.symm.trans hon) Bool.false_ne_true) rfl rfl rfl
    rw [hpop]
    exact ⟨t', hup.delayedDelete (hmode.trans hon)⟩
  · rw [if_neg (fun hsize => hlt (h.one_lt_size.mp hsize))]
    exact ⟨t, h.delayedExpireEnd (h.isSome_of_canExpire hcan hlt)⟩

theorem movementExpired (h : Up w t none) (hcan : CanExpire w) (reset : Bool) :
    ∃ t', Up (w.MovementExpired reset) t' none := by
  unfold World.MovementExpired
  by_cases hmode : w.MMCF_UPDATE = true
  · rw [if_pos hmode]
    exact (h.with_reset reset).delayedExpire hmode hcan
  · rw [if_neg hmode]
    exact h.directExpire (Bool.eq_false_of_not_eq_true hmode) hcan reset

end Up

/-- **All that `Clear` takes away may go**: no slot but `MOTION_SLOT_IDLE` is vacated, and that one
is filled; or there is nothing to do. -/
def CanClear (w : World) (reset : Bool) : Prop :=
  (w.Impl MOTION_SLOT_IDLE).isSome = true ∧ (∀ v, Vacated w.frames v → v = MOTION_SLOT_IDLE) ∨
    w._top = 0 ∧ (w.MMCF_UPDATE = true ∨ reset = false ∧ w._needInit MOTION_SLOT_IDLE = false)

namespace Up

variable {w : World} {reset : Bool}

theorem clear (h : Up w t none) (hcan : CanClear w reset) : ∃ t', Up (w.Clear reset) t' none := by
  unfold World.Clear
  rcases hcan with ⟨hidle, hvacated⟩ | ⟨hzero, hnothing⟩
  · by_cases hmode : w.MMCF_UPDATE = true
    · rw [if_pos hmode]
      exact (h.with_reset reset).delayedClean hmode hidle hvacated
    · rw [if_neg hmode]
      exact h.directClean (Bool.eq_false_of_not_eq_true hmode) hidle hvacated reset
  · -- there is one slot only, and its generator is not told anything
    have hsize : ¬ 1 < w._top + 1 := by omega
    have ht : t = MOTION_SLOT_IDLE := by
      rw [h.top_eq] at hzero
      exact Fin.ext (Int.ofNat_inj.mp hzero)
    by_cases hmode : w.MMCF_UPDATE = true
    · rw [if_pos hmode]
      unfold World.DelayedClean World.size
      rw [if_neg hsize]
      exact ⟨t, h.with_reset reset⟩
    · obtain ⟨hreset, hinit⟩ := hnothing.resolve_left hmode
      rw [if_neg hmode]
      unfold World.DirectClean World.size World.resetTop
      rw [if_neg hsize, h.top_eq, slotOf_val, ht]
      dsimp only
      rw [hinit, hreset]
      exact ⟨t, h⟩

/-! ### `UpdateMotion` -/

theorem of_base (h : Up w t none) (hfs : w.frames = f :: fs) (hbase : f.isBase = true) :
    (w.Impl t).isSome = true ∧ (w.Impl MOTION_SLOT_IDLE).isSome = true := by
  have hstores (v) : f.stores v = false := by
    cases f <;> first | rfl | exact absurd hbase Bool.false_ne_true
  have hshape := h.shape_cons hfs
  have htop : f.usesTop = true := by
    cases f <;> first | rfl | exact absurd hbase Bool.false_ne_true
  exact ⟨hshape.top_of_usesTop hstores htop, hshape.idle_of_isBase hstores hbase⟩

theorem of_nil (h : Up w t none) (hfs : w.frames = []) :
    (w.Impl t).isSome = true ∧ (w.Impl MOTION_SLOT_IDLE).isSome = true := by
  have hshape := h.shape
  rw [hfs] at hshape
  exact ⟨hshape.top.resolve_right id, hshape.idle.resolve_right id⟩

theorem expList_of_nil (h : Up w t none) (hfs : w.frames = []) : w._expList = none := by
  refine Option.not_isSome_iff_eq_none.mp fun hs => ?_
  have hlisted := h.listed hs
  rw [hfs] at hlisted
  exact hlisted.elim List.not_mem_nil List.not_mem_nil

theorem updateMotion (h : Up w t none) (hfs : w.frames = []) : Up w.UpdateMotion t none := by
  obtain ⟨hsome, hidle⟩ := h.of_nil hfs
  obtain ⟨g, hg⟩ := Option.isSome_iff_exists.mp hsome
  unfold World.UpdateMotion
  rw [if_neg h.not_empty, h.top_eq, slotOf_val]
  dsimp only
  rw [hg]
  have hshape : Shape w.Impl (.updating g :: .updateEnd :: w.frames) t := by
    refine Shape.push (Shape.push h.shape ?_ ?_ ?_ ?_) ?_ ?_ ?_ ?_
    all_goals first | exact fun _ => rfl | exact fun _ => hsome | exact fun _ => hidle |
      exact nofun
  refine ⟨rfl, h.fault, hshape, ⟨fun _ => ⟨[], g, by rw [hfs]; rfl, fun f hf => ?_⟩, ?_⟩,
    fun hs => ?_, fun a => ?_, fun a ha => ?_⟩
  · exact absurd hf List.not_mem_nil
  · exact fun hoff => absurd hoff.symm Bool.false_ne_true
  · exact .inl (List.mem_cons_of_mem _ List.mem_cons_self)
  · have haccounts := h.accounts a
    rw [World.copies, countP_holds_cons (x := none) rfl, countP_holds_cons (x := none) rfl]
    exact haccounts
  · -- the generator on top is the one that is updated
    rw [hfs] at ha
    have hga : g = .alloc a := by
      rcases List.mem_cons.mp ha with heq | hmem
      · injection heq with heq
        exact heq.symm
      · have hmem := List.mem_singleton.mp hmem
        cases hmem
    have hpos : 0 < held w.Impl (.alloc a) := held_pos (v := t) (by rw [hg, hga])
    exact Nat.lt_of_lt_of_le hpos (Nat.le_trans (Nat.le_add_right _ _) (Nat.le_add_right _ _))

theorem updated {u : Generator} (h : Up w t none) (hfs : w.frames = .updating u :: fs)
    (answer : Bool) : ∃ t', Up ((w.left fs).updated answer) t' none := by
  obtain ⟨hsome, hidle⟩ := h.of_base hfs rfl
  have hmode := h.mode
  rw [hfs] at hmode
  obtain ⟨hon, hend⟩ := hmode.done
  have hshape := (h.shape_cons hfs).drop fun _ => rfl
  subst hend
  have hoff : Up { w.left [.updateEnd] with MMCF_UPDATE := false } t none := by
    refine ⟨h.top_eq, h.fault, hshape, ⟨fun hon => ?_, fun _ f hf => ?_⟩,
      fun hs => .inl List.mem_cons_self, fun a => ?_, fun a ha => ?_⟩
    · cases hon
    · rw [List.mem_singleton.mp hf]
      rfl
    · have haccounts := h.accounts a
      rw [World.copies, hfs, countP_holds_cons (x := none) rfl] at haccounts
      exact haccounts
    · have ha := List.mem_singleton.mp ha
      cases ha
  cases answer with
  | true => exact ⟨t, hoff⟩
  | false =>
    refine hoff.movementExpired ?_ true
    -- no slot is vacated here
    have hnone (v : MovementSlot) : ¬ Vacated [Frame.updateEnd] v := fun hv =>
      (vacated_cons hv).elim Bool.false_ne_true fun hv => hv.elim fun m hm => List.not_mem_nil hm
    refine ⟨MOTION_SLOT_IDLE, hidle, ?_, fun v hv => absurd hv (hnone v)⟩
    by_cases hlt : MOTION_SLOT_IDLE < t
    · left
      have hpos : 0 < t.val := hlt
      show ((0 : ℕ) : ℤ) < w._top
      rw [h.top_eq]
      exact Int.ofNat_lt.mpr hpos
    · right
      have hzero : t = MOTION_SLOT_IDLE := Fin.le_zero_iff.mp (not_lt.mp hlt)
      refine ⟨?_, rfl⟩
      show w._top = 0
      rw [h.top_eq, hzero]
      rfl

theorem updateEnd (h : Up w t none) (hfs : w.frames = .updateEnd :: fs) : Up w.next t none := by
  obtain ⟨hsome, hidle⟩ := h.of_base hfs rfl
  have hmode := h.mode
  rw [hfs] at hmode
  have hoff := hmode.off_of_cons rfl fun u => Frame.noConfusion
  unfold World.next
  rw [hfs]
  cases hexp : w._expList with
  | none =>
    refine h.done hfs (fun _ => rfl) rfl (fun u => Frame.noConfusion) fun hs => ?_
    rw [hexp] at hs
    cases hs
  | some mgs =>
    dsimp only
    have hshape := ((h.shape_cons hfs).drop fun _ => rfl).push (f := .expList) (fun _ => rfl)
      (fun _ => hsome) (fun _ => hidle) nofun
    have hmode := (hmode.drop fun u => Frame.noConfusion).push (f := .expList)
      (fun hon => absurd (hoff.symm.trans hon) Bool.false_ne_true) fun _ => rfl
    refine ⟨h.top_eq, h.fault, hshape, hmode, fun _ => .inr List.mem_cons_self, fun a => ?_,
      fun a ha => ?_⟩
    · have haccounts := h.accounts a
      rw [World.copies, hfs, countP_holds_cons (x := none) rfl] at haccounts
      rw [World.copies, World.left, countP_holds_cons (x := none) rfl]
      exact haccounts
    · refine h.running a ?_
      rw [hfs]
      exact List.mem_cons_of_mem _ ((List.mem_cons.mp ha).resolve_left Frame.noConfusion)

/-- **A turn of the loop over `_expList`**, and what follows the loop. -/
theorem expireListed (h : Up w t none) (hfs : w.frames = .expList :: fs) :
    Up (w.left fs).expireListed t none := by
  obtain ⟨hsome, hidle⟩ := h.of_base hfs rfl
  have hmode := h.mode
  rw [hfs] at hmode
  have hoff := hmode.off_of_cons rfl fun u => Frame.noConfusion
  have hdone (hempty : ∀ g, (w._expList.getD []).count g = 0) :
      Up (World.push { w.left fs with _expList := none } .resetDone) t none := by
    have hup : Up { w.left fs with _expList := none } t none := by
      refine ⟨h.top_eq, h.fault, (h.shape_cons hfs).drop fun _ => rfl,
        hmode.drop fun u => Frame.noConfusion, fun hs => ?_, fun a => ?_, fun a ha => ?_⟩
      · cases hs
      · have haccounts := h.accounts a
        rw [World.copies, hfs, countP_holds_cons (x := none) rfl, World.kept, hempty] at haccounts
        exact haccounts
      · exact absurd (List.mem_cons_of_mem _ ha) (hfs ▸ h.not_updating hoff _)
    exact hup.push rfl (fun hon => absurd (hoff.symm.trans hon) Bool.false_ne_true)
      (fun _ => rfl) nofun nofun nofun
  unfold World.expireListed
  cases hexp : w._expList with
  | none =>
    have hup := hdone fun g => by rw [hexp]; rfl
    have hlist : (w.left fs)._expList = none := hexp
    rw [hlist]
    rw [if_neg hup.not_empty]
    exact hup.resetTop hsome _
  | some mgs =>
    have hlist : (w.left fs)._expList = some mgs := hexp
    rw [hlist]
    cases mgs with
    | nil =>
      have hup := hdone fun g => by rw [hexp]; rfl
      rw [if_neg hup.not_empty]
      exact hup.resetTop hsome _
    | cons mg mgs =>
      dsimp only
      have hup : Up (World.push { w.left fs with _expList := some mgs } .expList) t (some mg) := by
        refine ⟨h.top_eq, h.fault, h.shape_cons hfs, hmode, fun _ => .inr List.mem_cons_self,
          fun a => ?_, fun a ha => ?_⟩
        · have haccounts := h.accounts a
          rw [World.copies, hfs, World.kept, hexp, Option.getD_some, count_cons_eq] at haccounts
          simp only [one_none_eq_some] at haccounts
          show held w.Impl (.alloc a) + mgs.count (.alloc a) +
            (Frame.expList :: fs).countP (fun f => f.holds = some (.alloc a)) +
              w.destroyed.count (.alloc a) + one (some mg = some (.alloc a)) =
                one (a < w.created)
          omega
        · exact absurd (by rw [hfs]; exact ha) (h.not_updating hoff (.alloc a))
      exact hup.directDelete fun _ => hup.not_updating hoff mg

end Up

/-! ## Steps -/

/-- **What a call must not find**: an `Initialize` a stack in use, other calls an empty one;
a `Mutate` a slot that is vacated, unless it stores the static generator there, or the generator
that is updating below the top; `Clear` and `MovementExpired` a vacated slot that they go past. -/
def Fits (w : World) : Call → Prop
  | .Initialize => w.empty = true
  | .Mutate new slot => (w.empty = true → slot = MOTION_SLOT_IDLE) ∧
      (Vacated w.frames slot → new = false) ∧
      ∀ g, w.Impl slot = some g → Frame.updating g ∈ w.frames →
        g.isStatic = true ∨ w._top = slot.val
  | .Clear reset => CanClear w reset
  | .MovementExpired _ => CanExpire w
  | .UpdateMotion _ => w.empty = false

/-- The calls of a run fit. -/
def CallOk (w : World) : Act → Prop
  | .call c => w.takes c = true → Fits w c
  | .ret _ => True
  | .next => True

/-- **The invariant**: nothing was called, or the first generator is selected, or the stack is in
use. -/
def Inv (w : World) : Prop :=
  w = .new ∨ w = { World.new with frames := [.selecting] } ∨ ∃ t, Up w t none

theorem up_mutateNew_new (new : Bool) :
    Up (World.new.mutateNew new MOTION_SLOT_IDLE) MOTION_SLOT_IDLE none := by
  have hshape (m : Generator) : Shape (fun _ => none) [.mutate m MOTION_SLOT_IDLE]
      MOTION_SLOT_IDLE := by
    refine ⟨.inr (.inl rfl), .inr (.inl rfl), fun v hv => ?_, fun v _ g hg => ?_,
      fun hf => ?_, fun m' v heq hv => ?_, trivial⟩
    · rcases hv with hv | hv
      · cases hv
      · rcases vacated_cons hv with hs | hv
        · exact le_of_eq (of_decide_eq_true hs).symm
        · exact hv.elim fun m hm => absurd hm List.not_mem_nil
    · cases hg
    · cases hf
    · exact hv.elim fun m hm => absurd hm List.not_mem_nil
  have hmode (m : Generator) : Mode false [.mutate m MOTION_SLOT_IDLE] := by
    refine ⟨fun hon => ?_, fun _ f hf => ?_⟩
    · cases hon
    · rw [List.mem_singleton.mp hf]
      rfl
  cases new with
  | false =>
    refine ⟨rfl, rfl, hshape _, hmode _, fun hs => ?_, fun a => ?_, fun a ha => ?_⟩
    · cases hs
    · rfl
    · cases List.mem_singleton.mp ha
  | true =>
    refine ⟨rfl, rfl, hshape _, hmode _, fun hs => ?_, fun a => ?_, fun a ha => ?_⟩
    · cases hs
    · cases a with
      | zero => rfl
      | succ a => simp [World.copies, World.kept, World.mutateNew, World.Mutate, World.new,
          World.push, held, one, Frame.holds]
    · cases List.mem_singleton.mp ha

namespace Up

variable {w : World}

theorem call (h : Up w t none) {c : Call} (htakes : w.takes c = true) (hfits : Fits w c) :
    ∃ t', Up (w.call c) t' none := by
  cases c with
  | Initialize => exact absurd hfits h.not_empty
  | Mutate new slot =>
    obtain ⟨-, hstatic, hupdating⟩ := hfits
    refine h.mutateNew hstatic fun g hg hmem => (hupdating g hg hmem).imp id fun htop => ?_
    rw [h.top_eq] at htop
    exact Fin.ext (Int.ofNat_inj.mp htop)
  | Clear reset => exact h.clear hfits
  | MovementExpired reset => exact h.movementExpired hfits reset
  | UpdateMotion canMove =>
    -- callbacks do not call it
    have hfs : w.frames = [] := by
      unfold World.takes at htakes
      split at htakes
      · assumption
      · cases htakes
      · cases htakes
      · cases htakes
    unfold World.call
    dsimp only
    split
    · exact ⟨t, h.updateMotion hfs⟩
    · exact ⟨t, h⟩

theorem not_starting (h : Up w t none) (hfs : w.frames = f :: fs) (hin : f.inUpdate = false)
    (hout : f.outUpdate = false) (hne : ∀ u, f ≠ .updating u) : False := by
  have hmode := h.mode
  rw [hfs] at hmode
  rw [hmode.out_of_cons hin hne] at hout
  cases hout

theorem ret (h : Up w t none) (answer : Bool) : ∃ t', Up (w.ret answer) t' none := by
  unfold World.ret
  cases hfs : w.frames with
  | nil => exact ⟨t, h⟩
  | cons f fs =>
    cases f with
    | running g => exact ⟨t, h.left hfs rfl⟩
    | updating u => exact h.updated hfs answer
    | selecting => exact (h.not_starting hfs rfl rfl fun u => Frame.noConfusion).elim
    | _ => exact ⟨t, h⟩

theorem next (h : Up w t none) : ∃ t', Up w.next t' none := by
  by_cases hend : ∃ fs, w.frames = .updateEnd :: fs
  · obtain ⟨fs, hfs⟩ := hend
    exact ⟨t, h.updateEnd hfs⟩
  unfold World.next
  cases hfs : w.frames with
  | nil => exact ⟨t, h⟩
  | cons f fs =>
    have hshape := h.shape_cons hfs
    have hmode := h.mode
    rw [hfs] at hmode
    cases f with
    | running g => exact ⟨t, h⟩
    | updating u => exact ⟨t, h⟩
    | selecting => exact ⟨t, h⟩
    | destroy g => exact ⟨t, h.destroyed hfs⟩
    | mutate m slot => exact ⟨t, h.store hfs⟩
    | clearAll => exact (h.not_starting hfs rfl rfl fun u => Frame.noConfusion).elim
    | clean reset =>
      have hoff := hmode.off_of_cons rfl fun u => Frame.noConfusion
      exact (h.left hfs rfl).directClean hoff (h.of_base hfs rfl).2 (hshape.layered.1 rfl) reset
    | delayedClean =>
      have hon := hmode.on_of_cons rfl
      exact (h.left hfs rfl).delayedClean hon (h.of_base hfs rfl).2 (hshape.layered.1 rfl)
    | expire reset =>
      have hsome := hshape.top_of_usesTop (fun _ => rfl) rfl
      exact ⟨t, (h.left hfs rfl).expireEnd hsome reset⟩
    | delayedExpire =>
      have hsome := hshape.top_of_usesTop (fun _ => rfl) rfl
      exact ⟨t, (h.left hfs rfl).delayedExpireEnd hsome⟩
    | initTop =>
      have hup := h.left hfs rfl
      rw [h.top_eq, slotOf_val]
      exact ⟨t, rfl, hup.fault, hup.shape, hup.mode, hup.listed, hup.accounts, hup.running⟩
    | updateEnd => exact absurd ⟨fs, hfs⟩ hend
    | expList => exact ⟨t, h.expireListed hfs⟩
    | resetDone => exact ⟨t, (h.left hfs rfl).with_reset false⟩

end Up

/-- **Every step that fits keeps the invariant.** -/
theorem inv_step {w : World} {a : Act} (h : Inv w) (hok : CallOk w a) : Inv (step w a) := by
  rcases h with rfl | rfl | ⟨t, h⟩
  · cases a with
    | call c =>
      have hfits : Fits .new c := hok rfl
      cases c with
      | Initialize => exact .inr (.inl rfl)
      | Mutate new slot =>
        have hslot : slot = MOTION_SLOT_IDLE := hfits.1 rfl
        rw [hslot]
        exact .inr (.inr ⟨_, up_mutateNew_new new⟩)
      | Clear reset =>
        rcases hfits with ⟨hidle, -⟩ | ⟨hzero, -⟩
        · cases hidle
        · exact absurd hzero (by decide)
      | MovementExpired reset =>
        obtain ⟨t, hsome, -⟩ := hfits
        cases hsome
      | UpdateMotion canMove =>
        have hempty : World.new.empty = true := rfl
        exact absurd (hempty.symm.trans hfits) (by decide)
    | ret answer => exact .inl rfl
    | next => exact .inl rfl
  · cases a with
    | call c => exact .inr (.inl rfl)
    | ret answer => exact .inr (.inr ⟨_, up_mutateNew_new answer⟩)
    | next => exact .inr (.inl rfl)
  · have hfault : ¬ w.fault.isSome = true := by
      rw [h.fault]
      exact Bool.false_ne_true
    unfold step
    rw [if_neg hfault]
    cases a with
    | call c =>
      dsimp only
      by_cases htakes : w.takes c = true
      · rw [if_pos htakes]
        exact .inr (.inr (h.call htakes (hok htakes)))
      · rw [if_neg htakes]
        exact .inr (.inr ⟨t, h⟩)
    | ret answer => exact .inr (.inr (h.ret answer))
    | next => exact .inr (.inr h.next)

/-! ## Runs -/

/-- **What holds of the slots and their generators** after any number of steps. -/
structure MotionSound (w : World) : Prop where
  /-- No array is indexed outside, and no null pointer is followed. -/
  inside : w.fault = none
  /-- When no call is left, the top is the highest slot in use, and the lowest one is in use. -/
  stack : w.frames = [] → w = .new ∨ ∃ t : MovementSlot, w._top = t.val ∧
    (w.Impl t).isSome = true ∧ (∀ v, (w.Impl v).isSome = true → v ≤ t) ∧
    (w.Impl MOTION_SLOT_IDLE).isSome = true
  /-- A generator is not destroyed twice, nor while it is in a slot. -/
  once : ∀ a, w.destroyed.count (.alloc a) + held w.Impl (.alloc a) ≤ 1
  /-- When no call is left, a generator that was made is in a slot or destroyed. -/
  gone : w.frames = [] → ∀ a < w.created,
    w.destroyed.count (.alloc a) + held w.Impl (.alloc a) = 1
  /-- A generator whose `Update` runs is not destroyed. -/
  running : ∀ a, Frame.updating (.alloc a) ∈ w.frames → .alloc a ∉ w.destroyed

theorem MotionSound.of_inv {w : World} (h : Inv w) : MotionSound w := by
  rcases h with rfl | rfl | ⟨t, h⟩
  · refine ⟨rfl, fun _ => .inl rfl, fun a => Nat.zero_le _, fun _ a ha => ?_, fun a ha => ?_⟩
    · exact absurd ha (Nat.not_lt_zero a)
    · exact absurd ha List.not_mem_nil
  · refine ⟨rfl, fun hfs => ?_, fun a => Nat.zero_le _, fun _ a ha => ?_, fun a ha => ?_⟩
    · cases hfs
    · exact absurd ha (Nat.not_lt_zero a)
    · cases List.mem_singleton.mp ha
  · have hle (a : ℕ) : w.copies (.alloc a) ≤ 1 := by
      have haccounts := h.accounts a
      have hone : one (a < w.created) ≤ 1 := by
        unfold one
        split <;> omega
      omega
    refine ⟨h.fault, fun hfs => .inr ⟨t, h.top_eq, (h.of_nil hfs).1, fun v hv => ?_,
      (h.of_nil hfs).2⟩, fun a => ?_, fun hfs a ha => ?_, fun a ha hmem => ?_⟩
    · exact h.shape.below v (.inl hv)
    · have hcopies := hle a
      unfold World.copies World.kept at hcopies
      omega
    · have haccounts := h.accounts a
      have hexp := h.expList_of_nil hfs
      unfold World.copies World.kept at haccounts
      rw [hfs, hexp, one_none_eq_some, one, if_pos ha] at haccounts
      simp only [Option.getD_none, List.count_nil, List.countP_nil] at haccounts
      omega
    · have hpos := h.running a ha
      have hcopies := hle a
      have hcount := List.count_pos_iff.mpr hmem
      rw [one_none_eq_some] at hpos
      unfold World.copies at hcopies
      omega

/-- **Runs of calls that fit**: in whatever order generators call from their callbacks, the slots
are not left, and what leaves a slot is destroyed once, but not while it is updating. -/
theorem motionSound_run {acts : List Act} (h : Admissible step CallOk .new acts) :
    MotionSound (run step .new acts) :=
  .of_inv (run_invariant Inv (fun _ _ hinv hok => inv_step hinv hok) (.inl rfl) h)

/-- A generator that is on top ends itself in its update. -/
def expiresItself : List Act :=
  [.call .Initialize, .ret true, .next, .ret true, .call (.Mutate true MOTION_SLOT_ACTIVE), .next,
    .ret true, .call (.UpdateMotion true), .call (.MovementExpired true)]

theorem motionSound_expiresItself :
    MotionSound (run step .new expiresItself) := by
  refine motionSound_run ⟨fun _ => rfl, trivial, trivial, trivial, fun _ => ⟨fun hempty => ?_,
    fun hv => ?_, fun g hg => ?_⟩, trivial, trivial, fun _ => rfl, fun _ => ?_, trivial⟩
  · cases hempty
  · exact hv.elim fun m hm => absurd hm List.not_mem_nil
  · cases hg
  · refine ⟨MOTION_SLOT_IDLE, rfl, .inl (by decide), fun v hv => ?_⟩
    obtain ⟨m, hm⟩ := hv
    rcases List.mem_cons.mp hm with heq | hm
    · cases heq
    · cases List.mem_singleton.mp hm

/-- **A second `Initialize` leaves the slots**: `pop` goes on below the last one. -/
theorem not_motionSound : ¬ ∀ acts, MotionSound (run step .new acts) := by
  intro h
  have hinside := (h [.call .Initialize, .ret false, .next, .ret true, .call .Initialize]).inside
  exact absurd hinside (by decide)

end TeraCore.Movement
