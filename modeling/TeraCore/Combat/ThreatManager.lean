import Mathlib.Data.List.Sort

/-!
# Threat managers

A creature keeps a reference for each unit that it hates.  The references that it can fight are in
one list, the online one, and the others in another.  A reference that changes its state tells the
manager, which moves it from one list to the other.

References are told apart by their addresses; an address is not used twice.

A reference that gets threat may bring the owner of its unit to the lists, and the owner's owner,
and so on.  So adding threat has a depth; it has no result where the owners go deeper than that.

## Main definitions

* `HostileReference`, `ThreatManager`
* `processThreatEvent`: what the manager makes of a change
* `setOnlineOfflineState`, `updateOnlineStatus`, `removeReference`, `addThreatTo`: references
* `addThreat`, `clearReferences`, `getHostilTarget`: the manager
* `step`: the operations
-/

namespace TeraCore.Combat

/-- **What threat is**: the operations and comparisons of its floats. -/
structure Threat (τ : Type) where
  zero : τ
  add : τ → τ → τ
  sub : τ → τ → τ
  /-- `threat * percent / 100.0f` -/
  percent : τ → ℕ → τ
  /-- `1.1f * threat` -/
  times11 : τ → τ
  /-- `1.3f * threat` -/
  times13 : τ → τ
  lt : τ → τ → Bool
  le : τ → τ → Bool
  ne : τ → τ → Bool

variable {τ : Type}

/-- **What is asked of the world**, about units, which are their guids, and spells. -/
structure World (τ : Type) where
  /-- The unit that the manager belongs to. -/
  owner : ℕ
  isGameMaster : ℕ → Bool
  isAlive : ℕ → Bool
  isInMap : ℕ → Bool
  inSamePhase : ℕ → Bool
  isInFlight : ℕ → Bool
  isInAccessiblePlace : ℕ → Bool
  isWithinCombatRange : ℕ → Bool
  /-- `SPELL_ATTR1_NO_THREAT` -/
  noThreat : ℕ → Bool
  calcThreat : ℕ → τ → ℕ → Option ℕ → τ
  reducedThreatPercent : ℕ → ℕ
  misdirectionTarget : ℕ → Option ℕ
  /-- What the glyph of vigilance adds, if the unit has it. -/
  glyphOfVigilance : ℕ → ℕ
  charmerOrOwner : ℕ → Option ℕ
  /-- `ObjectAccessor::GetUnit` finds it. -/
  isFound : ℕ → Bool
  /-- It is immune, or has an aura that damage interrupts. -/
  isSecondChoice : ℕ → Bool
  canCreatureAttack : ℕ → Bool
  isWithinMeleeRange : ℕ → Bool

def World.isValidProcess (w : World τ) (hatedUnit : ℕ) (threatSpell : Option ℕ) : Bool :=
  hatedUnit != w.owner && !w.isGameMaster hatedUnit && w.isAlive hatedUnit && w.isAlive w.owner &&
    w.isInMap hatedUnit && w.inSamePhase hatedUnit && !threatSpell.any w.noThreat

/-! ## References and managers -/

structure HostileReference (τ : Type) where
  iThreat : τ
  iUnitGuid : ℕ
  iOnline : Bool
  iAccessible : Bool
  /-- The unit, as long as the reference is linked to it. -/
  iRefTo : Option ℕ

/-- **A threat manager**, and its references by their addresses. -/
structure ThreatManager (τ : Type) where
  reference : ℕ → HostileReference τ
  /-- The addresses that were used. -/
  allocated : ℕ
  iThreatContainer : List ℕ
  iThreatOfflineContainer : List ℕ
  iDirty : Bool
  iCurrentVictim : Option ℕ

inductive ThreatEvent (τ : Type) where
  | onlineStatus
  | threatChange (fValue : τ)
  | removeFromList
  | accessibleStatus

namespace ThreatManager

variable (t : Threat τ) (w : World τ) (m : ThreatManager τ)

/-- A manager without references. -/
def new (nothing : τ) : ThreatManager τ where
  reference _ := ⟨nothing, 0, false, false, none⟩
  allocated := 0
  iThreatContainer := []
  iThreatOfflineContainer := []
  iDirty := false
  iCurrentVictim := none

variable (a : ℕ)

/-- A reference is written to. -/
def modify (f : HostileReference τ → HostileReference τ) : ThreatManager τ :=
  { m with reference := fun b => if b = a then f (m.reference b) else m.reference b }

/-- `remove` of a list. -/
def removed (l : List ℕ) : List ℕ := l.filter (· ≠ a)

/-- What a manager does whose current victim goes. -/
def dropVictim : ThreatManager τ :=
  if m.iCurrentVictim = some a then { m with iCurrentVictim := none, iDirty := true } else m

def processThreatEvent : ThreatEvent τ → ThreatManager τ
  | .threatChange fValue =>
    if (m.iCurrentVictim = some a ∧ t.lt fValue t.zero) ∨
        (m.iCurrentVictim ≠ some a ∧ t.lt t.zero fValue) then
      { m with iDirty := true }
    else m
  | .onlineStatus =>
    if !(m.reference a).iOnline then
      let m := m.dropVictim a
      { m with
        iThreatContainer := removed a m.iThreatContainer
        iThreatOfflineContainer := m.iThreatOfflineContainer ++ [a] }
    else
      let dirty := m.iCurrentVictim.any fun v =>
        t.lt (t.times11 (m.reference v).iThreat) (m.reference a).iThreat
      { m with
        iDirty := m.iDirty || dirty
        iThreatContainer := m.iThreatContainer ++ [a]
        iThreatOfflineContainer := removed a m.iThreatOfflineContainer }
  | .removeFromList =>
    let m := m.dropVictim a
    if (m.reference a).iOnline then { m with iThreatContainer := removed a m.iThreatContainer }
    else { m with iThreatOfflineContainer := removed a m.iThreatOfflineContainer }
  | .accessibleStatus => m

/-! ### References -/

def setAccessibleState (isAccessible : Bool) : ThreatManager τ :=
  if (m.reference a).iAccessible ≠ isAccessible then
    (m.modify a fun r => { r with iAccessible := isAccessible }).processThreatEvent t a
      .accessibleStatus
  else m

/-- **`setOnlineOfflineState`** -/
def setOnlineOfflineState (isOnline : Bool) : ThreatManager τ :=
  if (m.reference a).iOnline ≠ isOnline then
    let m := m.modify a fun r => { r with iOnline := isOnline }
    let m := if !isOnline then m.setAccessibleState t a false else m
    m.processThreatEvent t a .onlineStatus
  else m

/-- The unit that a reference is linked to, if need be again. -/
def relink : ThreatManager τ :=
  if (m.reference a).iRefTo = none ∧ w.isFound (m.reference a).iUnitGuid then
    m.modify a fun r => { r with iRefTo := some r.iUnitGuid }
  else m

/-- Whether a unit is online, and accessible. -/
def onlineStatus (target : Option ℕ) : Bool × Bool :=
  match target with
  | none => (false, false)
  | some target =>
    if !w.isGameMaster target && !w.isInFlight target && w.isInMap target && w.inSamePhase target
    then
      if w.isInAccessiblePlace target then (true, true)
      else (w.isWithinCombatRange target, false)
    else (false, false)

def updateOnlineStatus : ThreatManager τ :=
  let m := m.relink w a
  let (online, accessible) := onlineStatus w (m.reference a).iRefTo
  (m.setAccessibleState t a accessible).setOnlineOfflineState t a online

/-- **`removeReference`**, for the target; `invalidate` takes the reference offline first. -/
def removeReference : ThreatManager τ :=
  let m := m.setOnlineOfflineState t a false
  let m := m.modify a fun r => { r with iRefTo := none }
  m.processThreatEvent t a .removeFromList

variable (addOwner : ThreatManager τ → ℕ → Option (ThreatManager τ))

/-- **`addThreat`** of a reference.  At last the manager gets the owner of the unit, if there is one
alive, without threat. -/
def addThreatTo (a : ℕ) (modThreat : τ) : Option (ThreatManager τ) :=
  let m := m.modify a fun r => { r with iThreat := t.add r.iThreat modThreat }
  let m := if !(m.reference a).iOnline then m.updateOnlineStatus t w a else m
  let m := if t.ne modThreat t.zero then m.processThreatEvent t a (.threatChange modThreat) else m
  match (m.reference a).iRefTo with
  | none => some m
  | some target =>
    if t.le t.zero modThreat then
      match w.charmerOrOwner target with
      | none => some m
      | some victimOwner => if w.isAlive victimOwner then addOwner m victimOwner else some m
    else some m

/-! ### The manager -/

def getReferenceByTarget (l : List ℕ) (victim : ℕ) : Option ℕ :=
  l.find? fun a => (m.reference a).iUnitGuid = victim

/-- A reference of a unit that has none. -/
def newReference (victim : ℕ) : ThreatManager τ :=
  { m with
    reference := fun b =>
      if b = m.allocated then ⟨t.zero, victim, true, true, some victim⟩ else m.reference b
    allocated := m.allocated + 1
    iThreatContainer := m.iThreatContainer ++ [m.allocated] }

/-- **`_addThreat`** -/
def addThreat' (victim : ℕ) (threat : τ) : Option (ThreatManager τ) :=
  match m.getReferenceByTarget m.iThreatContainer victim with
  | some a => m.addThreatTo t w addOwner a threat
  | none =>
    match m.getReferenceByTarget m.iThreatOfflineContainer victim with
    | some a => m.addThreatTo t w addOwner a threat
    | none =>
      -- threat has to be zero in the new reference
      ((m.newReference t victim).addThreatTo t w addOwner m.allocated threat).map fun m' =>
        if w.isGameMaster victim then m'.setOnlineOfflineState t m.allocated false else m'

/-- **`doAddThreat`**: a part of the threat may go to another unit. -/
def doAddThreat (victim : ℕ) (threat : τ) : Option (ThreatManager τ) :=
  let reducedThreadPercent := w.reducedThreatPercent victim
  if t.lt t.zero threat ∧ reducedThreadPercent ≠ 0 then
    match w.misdirectionTarget victim with
    | none =>
      let reducedThreat := t.percent threat reducedThreadPercent
      m.addThreat' t w addOwner victim (t.sub threat reducedThreat)
    | some redirectTarget =>
      let reducedThreadPercent := reducedThreadPercent + w.glyphOfVigilance redirectTarget
      let reducedThreat := t.percent threat reducedThreadPercent
      (m.addThreat' t w addOwner redirectTarget reducedThreat).bind fun m =>
        m.addThreat' t w addOwner victim (t.sub threat reducedThreat)
  else m.addThreat' t w addOwner victim threat

/-- **`addThreat`**, to a depth of owners. -/
def addThreat : ℕ → ThreatManager τ → ℕ → τ → ℕ → Option ℕ → Option (ThreatManager τ)
  | 0, _, _, _, _, _ => none
  | depth + 1, m, victim, threat, schoolMask, threatSpell =>
    if !w.isValidProcess victim threatSpell then some m
    else
      -- the owner gets no threat, of the normal school
      m.doAddThreat t w (fun m owner => addThreat depth m owner t.zero 1 none) victim
        (w.calcThreat victim threat schoolMask threatSpell)

def clearReferences : ThreatManager τ :=
  { m with iThreatContainer := [], iThreatOfflineContainer := [], iCurrentVictim := none }

/-- `update` of the online list: it is sorted, if need be, the highest threat first. -/
def update : ThreatManager τ :=
  { m with
    iThreatContainer :=
      if m.iDirty ∧ m.iThreatContainer.length > 1 then
        m.iThreatContainer.mergeSort fun a b =>
          !t.lt (m.reference a).iThreat (m.reference b).iThreat
      else m.iThreatContainer
    iDirty := false }

/-- What a turn of `selectNextVictim` comes to: a victim is found; the list is gone through once
more, with another current victim; there is none; or the reference has no unit, which an assertion
excludes. -/
inductive Selection where
  | found (a : ℕ)
  | again (currentVictim : Option ℕ)
  | none
  | assertion

/-- The unit of a reference may be attacked. -/
def attackable : Bool := (m.reference a).iRefTo.any w.canCreatureAttack

/-- The list is gone through. -/
def scan (noPriorityTargetFound : Bool) : Option ℕ → List ℕ → Selection
  | _, [] => .none
  | currentVictim, a :: rest =>
    match (m.reference a).iRefTo with
    | .none => .assertion
    | some target =>
      if !noPriorityTargetFound && w.isSecondChoice target then
        if rest ≠ [] then
          scan noPriorityTargetFound (if currentVictim = some a then .none else currentVictim) rest
        else .again currentVictim
      else if w.canCreatureAttack target then
        match currentVictim with
        | .none => .found a
        | some v =>
          if v = a ∨ t.le (m.reference a).iThreat (t.times11 (m.reference v).iThreat) then
            .found (if v ≠ a ∧ m.attackable w v then v else a)
          else if t.lt (t.times13 (m.reference v).iThreat) (m.reference a).iThreat ∨
              (t.lt (t.times11 (m.reference v).iThreat) (m.reference a).iThreat ∧
                w.isWithinMeleeRange target) then
            .found a
          else scan noPriorityTargetFound currentVictim rest
      else scan noPriorityTargetFound currentVictim rest

/-- **`selectNextVictim`**; it has no result where the assertion fails. -/
def selectNextVictim (currentVictim : Option ℕ) : Option (Option ℕ) :=
  match m.scan t w false currentVictim m.iThreatContainer with
  | .found a => some (some a)
  | .none => some none
  | .assertion => none
  | .again currentVictim =>
    match m.scan t w true currentVictim m.iThreatContainer with
    | .found a => some (some a)
    | .assertion => none
    | _ => some none

def setCurrentVictim (victim : Option ℕ) : ThreatManager τ := { m with iCurrentVictim := victim }

/-- **`getHostilTarget`** -/
def getHostilTarget : Option (ThreatManager τ) :=
  let m := m.update t
  (m.selectNextVictim t w m.iCurrentVictim).map m.setCurrentVictim

/-- A reference of one of the lists. -/
def Has : Prop := a ∈ m.iThreatContainer ∨ a ∈ m.iThreatOfflineContainer

instance (a : ℕ) : Decidable (m.Has a) := inferInstanceAs (Decidable (_ ∨ _))

end ThreatManager

/-! ## Operations -/

/-- What happens to a manager.  The operations of a reference come from the units, which know the
references of the lists. -/
inductive Op (τ : Type) where
  | addThreat (depth victim : ℕ) (threat : τ) (schoolMask : ℕ) (threatSpell : Option ℕ)
  | addThreatTo (depth a : ℕ) (modThreat : τ)
  | setOnlineOfflineState (a : ℕ) (isOnline : Bool)
  | updateOnlineStatus (a : ℕ)
  | removeReference (a : ℕ)
  | clearReferences
  | getHostilTarget
  /-- A taunt makes an online reference the current victim. -/
  | forceVictim (victim : ℕ)

def step (t : Threat τ) (m : ThreatManager τ) (op : World τ × Op τ) : Option (ThreatManager τ) :=
  match op.2 with
  | .addThreat depth victim threat schoolMask threatSpell =>
    ThreatManager.addThreat t op.1 depth m victim threat schoolMask threatSpell
  | .addThreatTo depth a modThreat =>
    if m.Has a then
      m.addThreatTo t op.1
        (fun m owner => ThreatManager.addThreat t op.1 depth m owner t.zero 1 none) a modThreat
    else some m
  | .setOnlineOfflineState a isOnline =>
    some (if m.Has a then m.setOnlineOfflineState t a isOnline else m)
  | .updateOnlineStatus a => some (if m.Has a then m.updateOnlineStatus t op.1 a else m)
  | .removeReference a => some (if m.Has a then m.removeReference t a else m)
  | .clearReferences => some m.clearReferences
  | .getHostilTarget => m.getHostilTarget t op.1
  | .forceVictim victim =>
    match m.getReferenceByTarget m.iThreatContainer victim with
    | none => some m
    | some a => some (m.setCurrentVictim (some a))

end TeraCore.Combat
