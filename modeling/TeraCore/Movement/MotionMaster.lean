import Mathlib.Data.Int.Notation
import TeraCore.Commons.Run

/-!
# Movement generators

A unit's movement generators lie in three slots, of which the highest that is not empty drives the
unit.  A generator is told when it begins, ends or is on top again, and is asked for its movement;
in each of these callbacks it may change the slots by the same calls that come from outside.

Here a call goes up to its next callback.  What is left of it, and of the calls around it, is a
stack of frames, and the turns of the loops are frames as well.

## Main definitions

* `Generator`, `MotionMaster`: the generators and their slots
* `Frame`, `World`: what is left of the calls, and the generators that were destroyed
* `Mutate`, `Clear`, `MovementExpired`, `Initialize`, `UpdateMotion`
* `step`: a call, the return of a callback, or the next turn of what is left
-/

namespace TeraCore.Movement

open Commons

abbrev MAX_MOTION_SLOT : ℕ := 3

abbrev MovementSlot := Fin MAX_MOTION_SLOT

abbrev MOTION_SLOT_IDLE : MovementSlot := 0

abbrev MOTION_SLOT_ACTIVE : MovementSlot := 1

abbrev MOTION_SLOT_CONTROLLED : MovementSlot := 2

/-- A generator: the one that all units share, or one of the unit's own. -/
inductive Generator where
  | si_idleMovement
  | alloc (address : ℕ)
deriving DecidableEq

def Generator.isStatic : Generator → Bool
  | si_idleMovement => true
  | alloc _ => false

/-- What cannot be done. -/
inductive Fault where
  /-- An array is indexed outside. -/
  | outside
  /-- A null pointer is followed. -/
  | null
  | assertion
deriving DecidableEq

structure MotionMaster where
  Impl : MovementSlot → Option Generator
  _top : ℤ
  _needInit : MovementSlot → Bool
  MMCF_UPDATE : Bool
  MMCF_RESET : Bool
  _expList : Option (List Generator)

/-- **What is left of a call**, or a callback that runs. -/
inductive Frame where
  /-- `Initialize`, `Finalize` or `Reset` of a generator. -/
  | running (g : Generator)
  /-- `Update` of a generator. -/
  | updating (g : Generator)
  /-- `selectMovementGenerator`, which calls nothing. -/
  | selecting
  /-- The end of `DirectDelete`. -/
  | destroy (g : Generator)
  /-- The second half of `Mutate`. -/
  | mutate (m : Generator) (slot : MovementSlot)
  /-- The loop of `Initialize`. -/
  | clearAll
  /-- The loop of `DirectClean`. -/
  | clean (reset : Bool)
  | delayedClean
  /-- The end of `DirectExpire`. -/
  | expire (reset : Bool)
  | delayedExpire
  /-- The end of `InitTop`. -/
  | initTop
  /-- The end of `UpdateMotion`. -/
  | updateEnd
  /-- Its loop over `_expList`. -/
  | expList
  /-- Its last statement. -/
  | resetDone
deriving DecidableEq

/-- **The slots of a unit**, with what is left of the calls. -/
structure World extends MotionMaster where
  /-- The innermost first. -/
  frames : List Frame
  /-- The number of generators that were made, which is the next one's address. -/
  created : ℕ
  /-- The generators that were deleted, the last one first. -/
  destroyed : List Generator
  fault : Option Fault

/-- The constructor. -/
def World.new : World where
  Impl := fun _ => none
  _top := -1
  _needInit := fun _ => true
  MMCF_UPDATE := false
  MMCF_RESET := false
  _expList := none
  frames := []
  created := 0
  destroyed := []
  fault := none

/-- The slot of an index. -/
def slotOf (i : ℤ) : Option MovementSlot :=
  if h : 0 ≤ i ∧ i < MAX_MOTION_SLOT then some ⟨i.toNat, by omega⟩ else none

/-- The highest slot with a generator below a number of slots; none when the loop leaves them. -/
def scanBelow (Impl : MovementSlot → Option Generator) : ℕ → Option MovementSlot
  | 0 => none
  | n + 1 =>
    if h : n < MAX_MOTION_SLOT then
      if (Impl ⟨n, h⟩).isSome then some ⟨n, h⟩ else scanBelow Impl n
    else none

namespace World

variable (w : World)

def fail (f : Fault) : World := { w with fault := some f }

def push (f : Frame) : World := { w with frames := f :: w.frames }

/-- What is left when a frame is done. -/
def left (fs : List Frame) : World := { w with frames := fs }

def empty : Bool := w._top < 0

def size : ℤ := w._top + 1

/-- The loop `while (!top()) --_top`. -/
def scan : Option World :=
  (scanBelow w.Impl w.size.toNat).map fun t => { w with _top := t.val }

/-- `top` and then `pop`, and what is done with the generator. -/
def pop (k : Option Generator → World → World) : World :=
  match slotOf w._top with
  | none => w.fail .outside
  | some i =>
    match ({ w with Impl := Function.update w.Impl i none } : World).scan with
    | none => w.fail .outside
    | some w' => k (w.Impl i) w'

/-- `DirectDelete` up to `Finalize` -/
def DirectDelete (curr : Generator) : World :=
  if curr.isStatic then w
  else { w with frames := .running curr :: .destroy curr :: w.frames }

def DelayedDelete (curr : Generator) : World :=
  if curr.isStatic then w
  else { w with _expList := some (w._expList.getD [] ++ [curr]) }

/-- A callback of the generator on top. -/
def onTop : World :=
  match slotOf w._top with
  | none => w.fail .outside
  | some i =>
    match w.Impl i with
    | none => w.fail .null
    | some g => w.push (.running g)

/-- `InitTop` up to the callback -/
def InitTop : World := (w.push .initTop).onTop

variable (reset : Bool)

/-- The generator on top begins, if it has not yet, or is reset. -/
def resetTop : World :=
  match slotOf w._top with
  | none => w.fail .outside
  | some i =>
    if w._needInit i then w.InitTop
    else if reset then w.onTop
    else w

/-! ## Calls -/

/-- **`Initialize`**, a turn of its loop. -/
def Initialize : World :=
  if w.empty then w.push .selecting
  else
    w.pop fun curr w =>
      match curr with
      | none => w.push .clearAll
      | some g => (w.push .clearAll).DirectDelete g

/-- **`Mutate`** up to the second half. -/
def Mutate (m : Generator) (slot : MovementSlot) : World :=
  match w.Impl slot with
  | some curr =>
    let w := { w with
      Impl := Function.update w.Impl slot none
      frames := .mutate m slot :: w.frames }
    if w._top = (slot.val : ℤ) ∧ w.MMCF_UPDATE then w.DelayedDelete curr else w.DirectDelete curr
  | none =>
    let w := if w._top < (slot.val : ℤ) then { w with _top := slot.val } else w
    w.push (.mutate m slot)

/-- The second half of `Mutate`. -/
def store (m : Generator) (slot : MovementSlot) : World :=
  let w := { w with Impl := Function.update w.Impl slot (some m) }
  if (slot.val : ℤ) < w._top then { w with _needInit := Function.update w._needInit slot true }
  else { w with
    _needInit := Function.update w._needInit slot false
    frames := .running m :: w.frames }

/-- `DirectClean`, a turn of its loop. -/
def DirectClean : World :=
  if 1 < w.size then
    w.pop fun curr w =>
      match curr with
      | none => w.push (.clean reset)
      | some g => (w.push (.clean reset)).DirectDelete g
  else w.resetTop reset

/-- `DelayedClean`, a turn of its loop. -/
def DelayedClean : World :=
  if 1 < w.size then
    w.pop fun curr w =>
      match curr with
      | none => w.push .delayedClean
      | some g => (w.push .delayedClean).DelayedDelete g
  else w

def Clear : World :=
  if w.MMCF_UPDATE then DelayedClean { w with MMCF_RESET := reset } else w.DirectClean reset

/-- The end of `DirectExpire`. -/
def expireEnd : World :=
  match w.scan with
  | none => w.fail .outside
  | some w => if w.empty then w.Initialize else w.resetTop reset

def DirectExpire : World :=
  if 1 < w.size then
    w.pop fun curr w =>
      match curr with
      | none => w.fail .null
      | some g => (w.push (.expire reset)).DirectDelete g
  else w.expireEnd reset

/-- The end of `DelayedExpire`. -/
def delayedExpireEnd : World :=
  match w.scan with
  | none => w.fail .outside
  | some w => w

def DelayedExpire : World :=
  if 1 < w.size then
    w.pop fun curr w =>
      match curr with
      | none => w.fail .null
      | some g => (w.push .delayedExpire).DelayedDelete g
  else w.delayedExpireEnd

def MovementExpired : World :=
  if w.MMCF_UPDATE then DelayedExpire { w with MMCF_RESET := reset } else w.DirectExpire reset

/-- **`UpdateMotion`** up to the callback. -/
def UpdateMotion : World :=
  if w.empty then w.fail .assertion
  else
    match slotOf w._top with
    | none => w.fail .outside
    | some i =>
      match w.Impl i with
      | none => w.fail .null
      | some g => { w with
        MMCF_UPDATE := true
        frames := .updating g :: .updateEnd :: w.frames }

/-- `UpdateMotion` after the answer of `Update`. -/
def updated (answer : Bool) : World :=
  let w := { w with MMCF_UPDATE := false }
  if answer then w else w.MovementExpired true

/-- A turn of the loop over `_expList`, from which a deleted generator is taken at once, and what
follows the loop. -/
def expireListed : World :=
  match w._expList with
  | some (mg :: mgs) => (({ w with _expList := some mgs } : World).push .expList).DirectDelete mg
  | _ =>
    let w := ({ w with _expList := none } : World).push .resetDone
    if w.empty then w.Initialize else w.resetTop w.MMCF_RESET

end World

/-! ## Steps -/

/-- The calls.  The `Move` functions call `Mutate`, one of them after `Clear`, with a new generator
or the static one. -/
inductive Call where
  | Initialize
  | Mutate (new : Bool) (slot : MovementSlot)
  | Clear (reset : Bool)
  | MovementExpired (reset : Bool)
  /-- Nothing is updated when the unit cannot move. -/
  | UpdateMotion (canMove : Bool)
deriving DecidableEq

/-- The calls that callbacks make. -/
def Call.nested : Call → Bool
  | Initialize => false
  | Mutate _ _ => true
  | Clear _ => true
  | MovementExpired _ => true
  | UpdateMotion _ => false

namespace World

variable (w : World)

/-- Is a call made now? From outside when nothing is left of another, or in a callback. -/
def takes (c : Call) : Bool :=
  match w.frames with
  | [] => true
  | .running _ :: _ => c.nested
  | .updating _ :: _ => c.nested
  | _ => false

/-- `Mutate` with a new generator or the static one. -/
def mutateNew (new : Bool) (slot : MovementSlot) : World :=
  if new then Mutate { w with created := w.created + 1 } (.alloc w.created) slot
  else w.Mutate .si_idleMovement slot

def call : Call → World
  | .Initialize => w.Initialize
  | .Mutate new slot => w.mutateNew new slot
  | .Clear reset => w.Clear reset
  | .MovementExpired reset => w.MovementExpired reset
  | .UpdateMotion canMove => if canMove then w.UpdateMotion else w

/-- **A callback returns.** -/
def ret (answer : Bool) : World :=
  match w.frames with
  | .running _ :: fs => w.left fs
  | .updating _ :: fs => (w.left fs).updated answer
  | .selecting :: fs => (w.left fs).mutateNew answer MOTION_SLOT_IDLE
  | _ => w

/-- **What is left goes on.** -/
def next : World :=
  match w.frames with
  | .destroy g :: fs => { w with frames := fs, destroyed := g :: w.destroyed }
  | .mutate m slot :: fs => (w.left fs).store m slot
  | .clearAll :: fs => (w.left fs).Initialize
  | .clean reset :: fs => (w.left fs).DirectClean reset
  | .delayedClean :: fs => (w.left fs).DelayedClean
  | .expire reset :: fs => (w.left fs).expireEnd reset
  | .delayedExpire :: fs => (w.left fs).delayedExpireEnd
  | .initTop :: fs =>
    match slotOf w._top with
    | none => w.fail .outside
    | some i => { w with frames := fs, _needInit := Function.update w._needInit i false }
  | .updateEnd :: fs =>
    match w._expList with
    | none => w.left fs
    | some _ => w.left (.expList :: fs)
  | .expList :: fs => (w.left fs).expireListed
  | .resetDone :: fs => { w with frames := fs, MMCF_RESET := false }
  | _ => w

end World

inductive Act where
  | call (c : Call)
  | ret (answer : Bool)
  | next
deriving DecidableEq

/-- **A step.** After a fault there is none. -/
def step (w : World) (a : Act) : World :=
  if w.fault.isSome then w
  else
    match a with
    | .call c => if w.takes c then w.call c else w
    | .ret answer => w.ret answer
    | .next => w.next

end TeraCore.Movement
