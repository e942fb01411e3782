import Mathlib.Data.List.Range
import TeraCore.Commons.Run

/-!
# The skill table

A player's skills are in update fields: three fields for each of 127 positions, with the id and the
step of a skill, its value and maximum, and its bonuses.  A map says at which position a skill is.
A skill that is removed leaves its entry in the map until the next save, with a position that other
skills may take.

When the step of a known skill is set, it is written over the value, not over the old step, and the
value is written right after it.  So the step stays what it was.

## Main definitions

* `SkillTable`: the fields, and the map
* `setSkill`, `updateSkill`, `updateSkillPro`, `saveSkills`: the operations
* `Sound`: every known skill has a position, and every used position a skill
* `SkillSet`: what setting a skill should do

## Main results

* `Sound.step`: every operation keeps the table sound
* `setSkill_spec`: the table after any number of operations, and one more call
-/

namespace TeraCore

open Commons

/-! ## The fields -/

def playerMaxSkills : ℕ := 127

/-- `PLAYER_SKILL_INFO_1_1` -/
def playerSkillInfo : ℕ := 636

/-- `PLAYER_SKILL_INDEX` -/
def playerSkillIndex (x : ℕ) : ℕ := playerSkillInfo + x * 3

/-- `PLAYER_SKILL_VALUE_INDEX` -/
def playerSkillValueIndex (x : ℕ) : ℕ := playerSkillIndex x + 1

/-- `PLAYER_SKILL_BONUS_INDEX` -/
def playerSkillBonusIndex (x : ℕ) : ℕ := playerSkillIndex x + 2

def skillUnarmed : ℕ := 162

def skillFistWeapons : ℕ := 473

inductive SkillUpdateState
  | unchanged
  | changed
  | new
  | deleted
  deriving DecidableEq

structure SkillStatusData where
  pos : ℕ
  uState : SkillUpdateState
  deriving DecidableEq

/-- **The skill table**: the update fields, and `mSkillStatus`. -/
structure SkillTable where
  fields : ℕ → BitVec 32
  mSkillStatus : ℕ → Option SkillStatusData

/-- An aura that modifies a skill. -/
structure SkillAura where
  miscValue : BitVec 32
  amount : BitVec 32
  deriving DecidableEq

namespace SkillTable

/-- `MAKE_PAIR32` -/
def makePair32 (l h : BitVec 32) : BitVec 32 := (l.setWidth 16).setWidth 32 ||| h <<< 16

/-- `PAIR32_LOPART` -/
def pair32Lopart (x : BitVec 32) : BitVec 16 := x.setWidth 16

/-- `PAIR32_HIPART` -/
def pair32Hipart (x : BitVec 32) : BitVec 16 := (x >>> 16).setWidth 16

@[simp] theorem pair32Lopart_makePair32 (l h : BitVec 32) :
    pair32Lopart (makePair32 l h) = l.setWidth 16 := by
  apply BitVec.eq_of_getLsbD_eq
  intro i hi
  simp [pair32Lopart, makePair32, hi]

@[simp] theorem pair32Hipart_makePair32 (l h : BitVec 32) :
    pair32Hipart (makePair32 l h) = h.setWidth 16 := by
  apply BitVec.eq_of_getLsbD_eq
  intro i hi
  have hlow : ¬16 + i < 16 := by omega
  have hhigh : 16 + i < 32 := by omega
  simp [pair32Hipart, makePair32, hi, hlow, hhigh]
  exact (BitVec.getLsbD_eq_getElem (by omega)).symm

@[simp] theorem setWidth_setWidth_self (x : BitVec 16) : (x.setWidth 32).setWidth 16 = x := by
  rw [BitVec.setWidth_setWidth_of_le _ (by decide), BitVec.setWidth_eq]

/-- The table without skills. -/
def empty : SkillTable := ⟨fun _ => 0, fun _ => none⟩

variable (t : SkillTable)

def setUInt32Value (index : ℕ) (value : BitVec 32) : SkillTable :=
  { t with fields := Function.update t.fields index value }

variable (skill : ℕ)

/-- The entry of a skill is set, or erased. -/
def setStatus (status : Option SkillStatusData) : SkillTable :=
  { t with mSkillStatus := Function.update t.mSkillStatus skill status }

/-- The entry of a skill that is not deleted. -/
def findSkill : Option SkillStatusData :=
  (t.mSkillStatus skill).filter (·.uState ≠ .deleted)

/-- A number that is read from a field of a skill; 0 if the skill is not known. -/
def skillNumber (index : ℕ → ℕ) (part : BitVec 32 → BitVec 16) : BitVec 16 :=
  if skill = 0 then 0
  else match t.findSkill skill with
    | some status => part (t.fields (index status.pos))
    | none => 0

def hasSkill : Bool := skill != 0 && (t.findSkill skill).isSome

def getSkillStep : BitVec 16 := t.skillNumber skill playerSkillIndex pair32Hipart

def getPureSkillValue : BitVec 16 :=
  t.skillNumber skill playerSkillValueIndex pair32Lopart

def getPureMaxSkillValue : BitVec 16 :=
  t.skillNumber skill playerSkillValueIndex pair32Hipart

variable (status : SkillStatusData)

/-- The entry has to be saved. -/
def markChanged : SkillTable :=
  if status.uState ≠ .new then t.setStatus skill (some { status with uState := .changed }) else t

/-! ## The operations -/

/-- What `UpdateSkill` and `UpdateSkillPro` do with the value of a known skill. -/
def raiseSkill (step : BitVec 32) : SkillTable :=
  let valueIndex := playerSkillValueIndex status.pos
  let value := (pair32Lopart (t.fields valueIndex)).setWidth 32
  let max := (pair32Hipart (t.fields valueIndex)).setWidth 32
  if max = 0 ∨ value = 0 ∨ max ≤ value then t
  else
    let new_value := value + step
    let new_value := if max < new_value then max else new_value
    (t.setUInt32Value valueIndex (makePair32 new_value max)).markChanged skill status

def updateSkill (skill_id : ℕ) (step : BitVec 32) : SkillTable :=
  if skill_id = 0 then t
  else
    let skill_id := if skill_id = skillFistWeapons then skillUnarmed else skill_id
    match t.findSkill skill_id with
    | some status => t.raiseSkill skill_id status step
    | none => t

/-- **`UpdateSkillPro`**, with the number from 1 to 1000 that `irand` draws. -/
def updateSkillPro (skillId : BitVec 16) (chance roll : ℤ) (step : BitVec 32) : SkillTable :=
  if skillId = 0 then t
  else if chance ≤ 0 then t
  else match t.findSkill skillId.toNat with
    | some status => if roll ≤ chance then t.raiseSkill skillId.toNat status step else t
    | none => t

def modifySkillBonus (skillid : ℕ) (val : BitVec 32) (talent : Bool) : SkillTable :=
  match t.findSkill skillid with
  | none => t
  | some status =>
    let bonusIndex := playerSkillBonusIndex status.pos
    let temp_bonus := (pair32Lopart (t.fields bonusIndex)).signExtend 32
    let perm_bonus := (pair32Hipart (t.fields bonusIndex)).signExtend 32
    if talent then t.setUInt32Value bonusIndex (makePair32 temp_bonus (perm_bonus + val))
    else t.setUInt32Value bonusIndex (makePair32 (temp_bonus + val) perm_bonus)

/-- The loop that applies the auras of a skill. -/
def applyAuras (id : BitVec 16) (talent : Bool) (auras : List SkillAura) : SkillTable :=
  auras.foldl (fun t aura =>
    if aura.miscValue = id.setWidth 32 then
      t.modifySkillBonus aura.miscValue.toNat aura.amount talent
    else t) t

/-- The branch of `SetSkill` for a known skill that gets a value. -/
def changeSkill (id step newVal maxVal : BitVec 16) : SkillTable :=
  -- the step is written over the value
  let t := t.setUInt32Value (playerSkillValueIndex status.pos)
    (makePair32 (id.setWidth 32) (step.setWidth 32))
  let t := t.setUInt32Value (playerSkillValueIndex status.pos)
    (makePair32 (newVal.setWidth 32) (maxVal.setWidth 32))
  t.markChanged id.toNat status

/-- The branch of `SetSkill` for a known skill that gets none. -/
def removeSkill (id : BitVec 16) : SkillTable :=
  let t := t.setUInt32Value (playerSkillIndex status.pos) 0
  let t := t.setUInt32Value (playerSkillValueIndex status.pos) 0
  let t := t.setUInt32Value (playerSkillBonusIndex status.pos) 0
  t.setStatus id.toNat
    (if status.uState ≠ .new then some { status with uState := .deleted } else none)

/-- The first position that is not used. -/
def freePos : Option ℕ :=
  (List.range playerMaxSkills).find? fun i => t.fields (playerSkillIndex i) = 0

/-- The branch of `SetSkill` for a skill that is not known, at a position that is not used. -/
def addSkill (modSkill modSkillTalent : List SkillAura) (i : ℕ)
    (id step newVal maxVal : BitVec 16) : SkillTable :=
  let uState : SkillUpdateState :=
    if (t.mSkillStatus id.toNat).isSome then .changed else .new
  let t := t.setUInt32Value (playerSkillIndex i)
    (makePair32 (id.setWidth 32) (step.setWidth 32))
  let t := t.setUInt32Value (playerSkillValueIndex i)
    (makePair32 (newVal.setWidth 32) (maxVal.setWidth 32))
  let t := t.setStatus id.toNat (some ⟨i, uState⟩)
  let t := t.setUInt32Value (playerSkillBonusIndex i) 0
  (t.applyAuras id false modSkill).applyAuras id true modSkillTalent

/-- **`SetSkill`**, with the skills of `sSkillLineStore` and the auras that modify skills. -/
def setSkill (skillLine : ℕ → Bool) (modSkill modSkillTalent : List SkillAura)
    (id step newVal maxVal : BitVec 16) : SkillTable :=
  if id = 0 then t
  else match t.findSkill id.toNat with
    | some status =>
      if newVal ≠ 0 then t.changeSkill status id step newVal maxVal else t.removeSkill status id
    | none =>
      if newVal ≠ 0 then
        match t.freePos with
        | some i =>
          if skillLine id.toNat then t.addSkill modSkill modSkillTalent i id step newVal maxVal
          else t
        | none => t
      else t

/-- **`_SaveSkills`**, as far as the table is concerned. -/
def saveSkills : SkillTable :=
  { t with mSkillStatus := fun skill =>
      (t.findSkill skill).map fun status => { status with uState := .unchanged } }

end SkillTable

/-- What happens to a skill table. -/
inductive SkillOp
  | setSkill (modSkill modSkillTalent : List SkillAura) (id step newVal maxVal : BitVec 16)
  | updateSkill (skill_id : ℕ) (step : BitVec 32)
  | updateSkillPro (skillId : BitVec 16) (chance roll : ℤ) (step : BitVec 32)
  | saveSkills

/-- One operation. -/
def SkillTable.step (skillLine : ℕ → Bool) (t : SkillTable) : SkillOp → SkillTable
  | .setSkill modSkill modSkillTalent id step newVal maxVal =>
    t.setSkill skillLine modSkill modSkillTalent id step newVal maxVal
  | .updateSkill skill_id step => t.updateSkill skill_id step
  | .updateSkillPro skillId chance roll step => t.updateSkillPro skillId chance roll step
  | .saveSkills => t.saveSkills

namespace SkillTable

variable {t t' t'' : SkillTable} {skill other pos x : ℕ} {status : SkillStatusData}
  {id newVal maxVal : BitVec 16} {modSkill modSkillTalent : List SkillAura} {i : ℕ}

/-! ## What an operation changes -/

/-- The position of a known skill. -/
def posOf (t : SkillTable) (skill : ℕ) : Option ℕ := (t.findSkill skill).map (·.pos)

theorem posOf_of_findSkill (h : t.findSkill skill = some status) :
    t.posOf skill = some status.pos := by
  rw [posOf, h]
  rfl

@[simp] theorem posOf_setUInt32Value (index : ℕ) (value : BitVec 32) :
    (t.setUInt32Value index value).posOf = t.posOf := rfl

@[simp] theorem fields_setStatus (status : Option SkillStatusData) :
    (t.setStatus skill status).fields = t.fields := rfl

theorem findSkill_setStatus (status : Option SkillStatusData) :
    (t.setStatus skill status).findSkill skill = status.filter (·.uState ≠ .deleted) := by
  simp [findSkill, setStatus]

theorem posOf_setStatus_of_ne (status : Option SkillStatusData) (h : other ≠ skill) :
    (t.setStatus skill status).posOf other = t.posOf other := by
  simp [posOf, findSkill, setStatus, h]

@[simp] theorem fields_markChanged : (t.markChanged skill status).fields = t.fields := by
  rw [markChanged]
  split_ifs <;> rfl

theorem posOf_markChanged_of_ne (h : other ≠ skill) :
    (t.markChanged skill status).posOf other = t.posOf other := by
  rw [markChanged]
  split_ifs
  · exact posOf_setStatus_of_ne _ h
  · rfl

theorem posOf_markChanged (h : t.findSkill skill = some status) :
    (t.markChanged skill status).posOf skill = some status.pos := by
  rw [markChanged]
  split_ifs
  · rw [posOf, findSkill_setStatus]
    rfl
  · exact posOf_of_findSkill h

/-- The three fields of a position are what they were. -/
def SameAt (t t' : SkillTable) (x : ℕ) : Prop :=
  t'.fields (playerSkillIndex x) = t.fields (playerSkillIndex x) ∧
    t'.fields (playerSkillValueIndex x) = t.fields (playerSkillValueIndex x) ∧
    t'.fields (playerSkillBonusIndex x) = t.fields (playerSkillBonusIndex x)

/-- **Only one skill and one position are changed.** -/
structure ChangesOnly (skill pos : ℕ) (t t' : SkillTable) : Prop where
  skills : ∀ other, other ≠ skill → t'.posOf other = t.posOf other
  fields : ∀ x, x ≠ pos → SameAt t t' x

theorem ChangesOnly.refl (t : SkillTable) : ChangesOnly skill pos t t :=
  ⟨fun _ _ => rfl, fun _ _ => ⟨rfl, rfl, rfl⟩⟩

theorem ChangesOnly.trans (h : ChangesOnly skill pos t t') (h' : ChangesOnly skill pos t' t'') :
    ChangesOnly skill pos t t'' where
  skills := fun other hne => (h'.skills other hne).trans (h.skills other hne)
  fields := by
    intro x hne
    obtain ⟨hindex, hvalue, hbonus⟩ := h.fields x hne
    obtain ⟨hindex', hvalue', hbonus'⟩ := h'.fields x hne
    exact ⟨hindex'.trans hindex, hvalue'.trans hvalue, hbonus'.trans hbonus⟩

theorem ChangesOnly.write {index : ℕ} (value : BitVec 32) (hlow : playerSkillIndex pos ≤ index)
    (hhigh : index ≤ playerSkillBonusIndex pos) :
    ChangesOnly skill pos t (t.setUInt32Value index value) where
  skills := fun _ _ => rfl
  fields := by
    intro x hne
    simp only [playerSkillIndex, playerSkillBonusIndex] at hlow hhigh
    refine ⟨Function.update_of_ne ?_ _ _, Function.update_of_ne ?_ _ _,
      Function.update_of_ne ?_ _ _⟩ <;>
    simp only [playerSkillIndex, playerSkillValueIndex, playerSkillBonusIndex] <;>
    omega

theorem ChangesOnly.setStatus (status : Option SkillStatusData) :
    ChangesOnly skill pos t (t.setStatus skill status) :=
  ⟨fun _ h => posOf_setStatus_of_ne _ h, fun _ _ => ⟨rfl, rfl, rfl⟩⟩

theorem ChangesOnly.markChanged : ChangesOnly skill pos t (t.markChanged skill status) :=
  ⟨fun _ h => posOf_markChanged_of_ne h, fun _ _ => by simp [SameAt]⟩

theorem index_ne_valueIndex (x : ℕ) : playerSkillIndex x ≠ playerSkillValueIndex x := by
  simp [playerSkillValueIndex]

theorem index_ne_bonusIndex (x : ℕ) : playerSkillIndex x ≠ playerSkillBonusIndex x := by
  simp [playerSkillBonusIndex]

theorem valueIndex_ne_bonusIndex (x : ℕ) :
    playerSkillValueIndex x ≠ playerSkillBonusIndex x := by
  simp [playerSkillValueIndex, playerSkillBonusIndex]

/-! ## One lemma for each operation -/

theorem changesOnly_writeValue (value : BitVec 32) :
    ChangesOnly skill pos t (t.setUInt32Value (playerSkillValueIndex pos) value) := by
  apply ChangesOnly.write <;> simp [playerSkillValueIndex, playerSkillBonusIndex]

theorem changesOnly_writeIndex (value : BitVec 32) :
    ChangesOnly skill pos t (t.setUInt32Value (playerSkillIndex pos) value) := by
  apply ChangesOnly.write <;> simp [playerSkillBonusIndex]

theorem changesOnly_writeBonus (value : BitVec 32) :
    ChangesOnly skill pos t (t.setUInt32Value (playerSkillBonusIndex pos) value) := by
  apply ChangesOnly.write <;> simp [playerSkillBonusIndex]

theorem raiseSkill_spec (h : t.findSkill skill = some status) (step : BitVec 32) :
    ChangesOnly skill status.pos t (t.raiseSkill skill status step) ∧
      (t.raiseSkill skill status step).posOf skill = some status.pos ∧
      (t.raiseSkill skill status step).fields (playerSkillIndex status.pos) =
        t.fields (playerSkillIndex status.pos) := by
  simp only [raiseSkill]
  split_ifs
  · exact ⟨.refl t, posOf_of_findSkill h, rfl⟩
  all_goals
    refine ⟨(changesOnly_writeValue _).trans .markChanged, posOf_markChanged h, ?_⟩
    rw [fields_markChanged]
    exact Function.update_of_ne (index_ne_valueIndex _) _ _

theorem changeSkill_spec (h : t.findSkill id.toNat = some status) (step newVal maxVal : BitVec 16) :
    ChangesOnly id.toNat status.pos t (t.changeSkill status id step newVal maxVal) ∧
      (t.changeSkill status id step newVal maxVal).posOf id.toNat = some status.pos ∧
      (t.changeSkill status id step newVal maxVal).fields (playerSkillIndex status.pos) =
        t.fields (playerSkillIndex status.pos) ∧
      (t.changeSkill status id step newVal maxVal).fields (playerSkillValueIndex status.pos) =
        makePair32 (newVal.setWidth 32) (maxVal.setWidth 32) := by
  simp only [changeSkill]
  refine ⟨((changesOnly_writeValue _).trans (changesOnly_writeValue _)).trans .markChanged,
    posOf_markChanged h, ?_, ?_⟩
  · rw [fields_markChanged]
    exact (Function.update_of_ne (index_ne_valueIndex _) _ _).trans
      (Function.update_of_ne (index_ne_valueIndex _) _ _)
  · rw [fields_markChanged]
    exact Function.update_self _ _ _

theorem removeSkill_spec (t : SkillTable) (id : BitVec 16) (status : SkillStatusData) :
    ChangesOnly id.toNat status.pos t (t.removeSkill status id) ∧
      (t.removeSkill status id).posOf id.toNat = none ∧
      (t.removeSkill status id).fields (playerSkillIndex status.pos) = 0 := by
  simp only [removeSkill]
  refine ⟨(((changesOnly_writeIndex _).trans (changesOnly_writeValue _)).trans
    (changesOnly_writeBonus _)).trans (.setStatus _), ?_, ?_⟩
  · rw [posOf, findSkill_setStatus]
    split_ifs <;> rfl
  · rw [fields_setStatus]
    exact (Function.update_of_ne (index_ne_bonusIndex _) _ _).trans
      ((Function.update_of_ne (index_ne_valueIndex _) _ _).trans (Function.update_self _ _ _))

/-- **Only the bonuses of a position are changed.** -/
structure BonusOnly (pos : ℕ) (t t' : SkillTable) : Prop where
  skills : t'.mSkillStatus = t.mSkillStatus
  fields : ∀ index, index ≠ playerSkillBonusIndex pos → t'.fields index = t.fields index

theorem BonusOnly.trans (h : BonusOnly pos t t') (h' : BonusOnly pos t' t'') :
    BonusOnly pos t t'' :=
  ⟨h'.skills.trans h.skills, fun index hne => (h'.fields index hne).trans (h.fields index hne)⟩

theorem BonusOnly.posOf (h : BonusOnly pos t t') : t'.posOf = t.posOf := by
  funext skill
  simp only [SkillTable.posOf, findSkill, h.skills]

theorem BonusOnly.changesOnly (h : BonusOnly pos t t') : ChangesOnly skill pos t t' where
  skills := fun other _ => congrFun h.posOf other
  fields := by
    intro x hne
    refine ⟨h.fields _ ?_, h.fields _ ?_, h.fields _ ?_⟩ <;>
    simp only [playerSkillIndex, playerSkillValueIndex, playerSkillBonusIndex] <;>
    omega

theorem bonusOnly_write (value : BitVec 32) :
    BonusOnly pos t (t.setUInt32Value (playerSkillBonusIndex pos) value) :=
  ⟨rfl, fun _ hne => Function.update_of_ne hne _ _⟩

theorem bonusOnly_modifySkillBonus (h : t.posOf skill = some pos) (val : BitVec 32)
    (talent : Bool) : BonusOnly pos t (t.modifySkillBonus skill val talent) := by
  obtain ⟨status, hstatus, rfl⟩ := Option.map_eq_some_iff.mp h
  simp only [modifySkillBonus, hstatus]
  split_ifs
  · exact bonusOnly_write _
  · exact bonusOnly_write _

theorem bonusOnly_applyAuras (h : t.posOf id.toNat = some pos) (talent : Bool)
    (auras : List SkillAura) : BonusOnly pos t (t.applyAuras id talent auras) := by
  rw [applyAuras]
  refine foldl_invariant (BonusOnly pos t) (fun t' aura _ hinv => ?_) ⟨rfl, fun _ _ => rfl⟩
  split_ifs with haura
  · -- the aura modifies the skill itself
    have hid : aura.miscValue.toNat = id.toNat := by
      rw [haura, BitVec.toNat_setWidth, Nat.mod_eq_of_lt (id.isLt.trans (by decide))]
    rw [hid]
    exact hinv.trans (bonusOnly_modifySkillBonus ((congrFun hinv.posOf _).trans h) _ _)
  · exact hinv

theorem addSkill_spec (t : SkillTable) (modSkill modSkillTalent : List SkillAura) (i : ℕ)
    (id step newVal maxVal : BitVec 16) :
    let t' := t.addSkill modSkill modSkillTalent i id step newVal maxVal
    ChangesOnly id.toNat i t t' ∧ t'.posOf id.toNat = some i ∧
      t'.fields (playerSkillIndex i) = makePair32 (id.setWidth 32) (step.setWidth 32) ∧
      t'.fields (playerSkillValueIndex i) = makePair32 (newVal.setWidth 32)
        (maxVal.setWidth 32) := by
  intro t'
  obtain ⟨t₁, ht₁, hpos, hindex, hvalue, ht'⟩ : ∃ t₁, ChangesOnly id.toNat i t t₁ ∧
      t₁.posOf id.toNat = some i ∧
      t₁.fields (playerSkillIndex i) = makePair32 (id.setWidth 32) (step.setWidth 32) ∧
      t₁.fields (playerSkillValueIndex i) =
        makePair32 (newVal.setWidth 32) (maxVal.setWidth 32) ∧
      t' = (t₁.applyAuras id false modSkill).applyAuras id true modSkillTalent := by
    refine ⟨_, (((changesOnly_writeIndex _).trans (changesOnly_writeValue _)).trans
      (.setStatus _)).trans (changesOnly_writeBonus _), ?_, ?_, ?_, rfl⟩
    · rw [posOf_setUInt32Value, posOf, findSkill_setStatus]
      split_ifs <;> rfl
    · exact (Function.update_of_ne (index_ne_bonusIndex _) _ _).trans
        ((Function.update_of_ne (index_ne_valueIndex _) _ _).trans (Function.update_self _ _ _))
    · exact (Function.update_of_ne (valueIndex_ne_bonusIndex _) _ _).trans
        (Function.update_self _ _ _)
  have hfirst := bonusOnly_applyAuras hpos false modSkill
  have hboth := hfirst.trans
    (bonusOnly_applyAuras ((congrFun hfirst.posOf _).trans hpos) true modSkillTalent)
  rw [ht']
  exact ⟨ht₁.trans hboth.changesOnly, (congrFun hboth.posOf _).trans hpos,
    (hboth.fields _ (index_ne_bonusIndex i)).trans hindex,
    (hboth.fields _ (valueIndex_ne_bonusIndex i)).trans hvalue⟩

/-! ## Sound tables -/

/-- **The table is sound**: every known skill is at a position with its id, and at every position
that is used there is a known skill. -/
structure Sound (t : SkillTable) : Prop where
  skill : ∀ skill pos, t.posOf skill = some pos → pos < playerMaxSkills ∧ skill ≠ 0 ∧
    (pair32Lopart (t.fields (playerSkillIndex pos))).toNat = skill
  used : ∀ pos < playerMaxSkills, t.fields (playerSkillIndex pos) ≠ 0 →
    ∃ skill, t.posOf skill = some pos

theorem sound_empty : Sound empty where
  skill := fun _ _ h => by cases h
  used := fun _ _ h => absurd rfl h

section

variable (ht : t.Sound)
include ht

theorem Sound.used_of_posOf (h : t.posOf skill = some pos) :
    t.fields (playerSkillIndex pos) ≠ 0 := by
  intro hzero
  obtain ⟨_, hne, hid⟩ := ht.skill _ _ h
  rw [hzero] at hid
  exact hne hid.symm

theorem Sound.posOf_inj (h : t.posOf skill = some pos) (h' : t.posOf other = some pos) :
    skill = other :=
  (ht.skill _ _ h).2.2.symm.trans (ht.skill _ _ h').2.2

/-- **The used positions and the known skills correspond one to one.** -/
theorem Sound.used_iff (hpos : pos < playerMaxSkills) :
    t.fields (playerSkillIndex pos) ≠ 0 ↔ ∃! skill, t.posOf skill = some pos := by
  constructor
  · intro hused
    obtain ⟨skill, hskill⟩ := ht.used pos hpos hused
    exact ⟨skill, hskill, fun other hother => ht.posOf_inj hother hskill⟩
  · rintro ⟨skill, hskill, _⟩
    exact ht.used_of_posOf hskill

theorem Sound.place (hchanges : ChangesOnly skill pos t t') (hskill : t'.posOf skill = some pos)
    (hpos : pos < playerMaxSkills) (hne : skill ≠ 0)
    (hid : (pair32Lopart (t'.fields (playerSkillIndex pos))).toNat = skill)
    (hother : ∀ other, other ≠ skill → t.posOf other ≠ some pos)
    (hold : ∀ p, t.posOf skill = some p → p = pos) : t'.Sound where
  skill := by
    intro other p hp
    by_cases heq : other = skill
    · subst heq
      cases hskill.symm.trans hp
      exact ⟨hpos, hne, hid⟩
    · rw [hchanges.skills other heq] at hp
      have hp' : p ≠ pos := fun hp' => hother other heq (hp' ▸ hp)
      rw [(hchanges.fields p hp').1]
      exact ht.skill _ _ hp
  used := by
    intro p hp hused
    by_cases heq : p = pos
    · exact ⟨skill, heq ▸ hskill⟩
    · rw [(hchanges.fields p heq).1] at hused
      obtain ⟨other, hother⟩ := ht.used p hp hused
      have hne' : other ≠ skill := fun hne' => heq (hold p (hne' ▸ hother))
      exact ⟨other, (hchanges.skills other hne').trans hother⟩

theorem Sound.remove (hchanges : ChangesOnly skill pos t t') (hskill : t'.posOf skill = none)
    (hfree : t'.fields (playerSkillIndex pos) = 0) (hold : t.posOf skill = some pos) :
    t'.Sound where
  skill := by
    intro other p hp
    by_cases heq : other = skill
    · rw [heq, hskill] at hp
      cases hp
    · rw [hchanges.skills other heq] at hp
      have hp' : p ≠ pos := fun hp' => heq (ht.posOf_inj hp (hp' ▸ hold))
      rw [(hchanges.fields p hp').1]
      exact ht.skill _ _ hp
  used := by
    intro p hp hused
    by_cases heq : p = pos
    · rw [heq] at hused
      exact absurd hfree hused
    · rw [(hchanges.fields p heq).1] at hused
      obtain ⟨other, hother⟩ := ht.used p hp hused
      have hne' : other ≠ skill := by
        rintro rfl
        exact heq (Option.some.inj (hother.symm.trans hold))
      exact ⟨other, (hchanges.skills other hne').trans hother⟩

theorem Sound.keep (hchanges : ChangesOnly skill pos t t') (hold : t.posOf skill = some pos)
    (hskill : t'.posOf skill = some pos)
    (hindex : t'.fields (playerSkillIndex pos) = t.fields (playerSkillIndex pos)) : t'.Sound := by
  obtain ⟨hpos, hne, hid⟩ := ht.skill _ _ hold
  refine ht.place hchanges hskill hpos hne (hindex ▸ hid) (fun other hne hother => ?_)
    fun p hp => Option.some.inj (hp.symm.trans hold)
  exact hne (ht.posOf_inj hother hold)

theorem Sound.raiseSkill (h : t.findSkill skill = some status) (step : BitVec 32) :
    (t.raiseSkill skill status step).Sound := by
  obtain ⟨hchanges, hskill, hindex⟩ := raiseSkill_spec h step
  exact ht.keep hchanges (posOf_of_findSkill h) hskill hindex

theorem Sound.updateSkill (skill_id : ℕ) (step : BitVec 32) :
    (t.updateSkill skill_id step).Sound := by
  rw [SkillTable.updateSkill]
  by_cases hzero : skill_id = 0
  · rw [if_pos hzero]
    exact ht
  · rw [if_neg hzero]
    dsimp only
    split
    · exact ht.raiseSkill ‹_› step
    · exact ht

theorem Sound.updateSkillPro (skillId : BitVec 16) (chance roll : ℤ) (step : BitVec 32) :
    (t.updateSkillPro skillId chance roll step).Sound := by
  rw [SkillTable.updateSkillPro]
  cases hfind : t.findSkill skillId.toNat with
  | none =>
    simp only [ite_self]
    exact ht
  | some status =>
    split_ifs
    · exact ht
    · exact ht
    · exact ht.raiseSkill hfind step
    · exact ht

end

theorem freePos_spec (h : t.freePos = some i) :
    i < playerMaxSkills ∧ t.fields (playerSkillIndex i) = 0 :=
  ⟨List.mem_range.mp (List.mem_of_find?_eq_some h), by simpa using List.find?_some h⟩

theorem id_toNat_ne_zero (hid : id ≠ 0) : id.toNat ≠ 0 := by
  intro hzero
  exact hid (BitVec.eq_of_toNat_eq hzero)

theorem Sound.addSkill (ht : t.Sound) (hnone : t.findSkill id.toNat = none) (hid : id ≠ 0)
    (hfree : t.freePos = some i) (modSkill modSkillTalent : List SkillAura)
    (step newVal maxVal : BitVec 16) :
    (t.addSkill modSkill modSkillTalent i id step newVal maxVal).Sound := by
  obtain ⟨hchanges, hskill, hindex, _⟩ :=
    addSkill_spec t modSkill modSkillTalent i id step newVal maxVal
  obtain ⟨hpos, hzero⟩ := freePos_spec hfree
  refine ht.place hchanges hskill hpos (id_toNat_ne_zero hid) ?_
    (fun other _ hother => ht.used_of_posOf hother hzero) fun p hp => ?_
  · rw [hindex, pair32Lopart_makePair32, setWidth_setWidth_self]
  · rw [posOf, hnone] at hp
    cases hp

theorem setSkill_known (hid : id ≠ 0) (h : t.findSkill id.toNat = some status)
    (skillLine : ℕ → Bool) (modSkill modSkillTalent : List SkillAura)
    (step newVal maxVal : BitVec 16) :
    t.setSkill skillLine modSkill modSkillTalent id step newVal maxVal =
      if newVal ≠ 0 then t.changeSkill status id step newVal maxVal
      else t.removeSkill status id := by
  rw [setSkill, if_neg hid, h]

theorem setSkill_unknown (hid : id ≠ 0) (h : t.findSkill id.toNat = none)
    (skillLine : ℕ → Bool) (modSkill modSkillTalent : List SkillAura)
    (step newVal maxVal : BitVec 16) :
    t.setSkill skillLine modSkill modSkillTalent id step newVal maxVal = t ∨
      ∃ i, newVal ≠ 0 ∧ t.freePos = some i ∧ skillLine id.toNat = true ∧
        t.setSkill skillLine modSkill modSkillTalent id step newVal maxVal =
          t.addSkill modSkill modSkillTalent i id step newVal maxVal := by
  rw [setSkill, if_neg hid, h]
  cases hfree : t.freePos with
  | none => exact .inl (ite_self t)
  | some i =>
    split_ifs with hval hline
    · exact .inr ⟨i, hval, rfl, hline, rfl⟩
    · exact .inl rfl
    · exact .inl rfl

theorem Sound.setSkill (ht : t.Sound) (skillLine : ℕ → Bool)
    (modSkill modSkillTalent : List SkillAura) (id step newVal maxVal : BitVec 16) :
    (t.setSkill skillLine modSkill modSkillTalent id step newVal maxVal).Sound := by
  by_cases hid : id = 0
  · rw [SkillTable.setSkill, if_pos hid]
    exact ht
  · cases hfind : t.findSkill id.toNat with
    | none =>
      rcases setSkill_unknown hid hfind skillLine modSkill modSkillTalent step newVal maxVal with
        hsame | ⟨i, _, hfree, _, hadd⟩
      · rw [hsame]
        exact ht
      · rw [hadd]
        exact ht.addSkill hfind hid hfree _ _ _ _ _
    | some status =>
      have hold := posOf_of_findSkill hfind
      rw [setSkill_known hid hfind]
      split_ifs
      · obtain ⟨hchanges, hskill, hindex, _⟩ := changeSkill_spec hfind step newVal maxVal
        exact ht.keep hchanges hold hskill hindex
      · obtain ⟨hchanges, hskill, hfree⟩ := removeSkill_spec t id status
        exact ht.remove hchanges hskill hfree hold

theorem posOf_saveSkills : t.saveSkills.posOf = t.posOf := by
  funext skill
  simp only [posOf, findSkill, saveSkills]
  cases t.mSkillStatus skill with
  | none => rfl
  | some status =>
    by_cases hdeleted : status.uState = .deleted
    · simp [Option.filter, hdeleted]
    · simp [Option.filter, hdeleted]

theorem Sound.saveSkills (ht : t.Sound) : t.saveSkills.Sound where
  skill := by
    rw [posOf_saveSkills]
    exact ht.skill
  used := by
    rw [posOf_saveSkills]
    exact ht.used

/-- **Every operation keeps the table sound.** -/
theorem Sound.step (ht : t.Sound) (skillLine : ℕ → Bool) (op : SkillOp) :
    (t.step skillLine op).Sound := by
  cases op with
  | setSkill modSkill modSkillTalent id step newVal maxVal => exact ht.setSkill ..
  | updateSkill skill_id step => exact ht.updateSkill ..
  | updateSkillPro skillId chance roll step => exact ht.updateSkillPro ..
  | saveSkills => exact ht.saveSkills

/-! ## What setting a skill does -/

/-- **The skill is set**: its step, its value and its maximum are the ones that were given. -/
def SkillSet (t' : SkillTable) (id step newVal maxVal : BitVec 16) : Prop :=
  t'.getSkillStep id.toNat = step ∧ t'.getPureSkillValue id.toNat = newVal ∧
    t'.getPureMaxSkillValue id.toNat = maxVal

instance (t' : SkillTable) (id step newVal maxVal : BitVec 16) :
    Decidable (t'.SkillSet id step newVal maxVal) :=
  inferInstanceAs (Decidable (_ ∧ _ ∧ _))

/-- The skill is where it was, with the same fields. -/
def SameSkill (t t' : SkillTable) (skill : ℕ) : Prop :=
  t'.posOf skill = t.posOf skill ∧ ∀ pos, t.posOf skill = some pos → SameAt t t' pos

/-- **The step need not be changed**: a known skill has it, and a new one gets it if there is such a
skill. -/
def StepRight (t : SkillTable) (skillLine : ℕ → Bool) (id step : BitVec 16) : Prop :=
  id ≠ 0 ∧ if t.hasSkill id.toNat then t.getSkillStep id.toNat = step
    else skillLine id.toNat = true

instance (t : SkillTable) (skillLine : ℕ → Bool) (id step : BitVec 16) :
    Decidable (t.StepRight skillLine id step) :=
  inferInstanceAs (Decidable (_ ∧ ite _ _ _))

theorem skillNumber_of_posOf (h : t.posOf skill = some pos) (hne : skill ≠ 0) (index : ℕ → ℕ)
    (part : BitVec 32 → BitVec 16) :
    t.skillNumber skill index part = part (t.fields (index pos)) := by
  obtain ⟨status, hstatus, rfl⟩ := Option.map_eq_some_iff.mp h
  rw [skillNumber, if_neg hne, hstatus]

theorem skillNumber_of_none (h : t.findSkill skill = none) (index : ℕ → ℕ)
    (part : BitVec 32 → BitVec 16) : t.skillNumber skill index part = 0 := by
  rw [skillNumber, h]
  exact ite_self 0

theorem hasSkill_eq (hne : skill ≠ 0) : t.hasSkill skill = (t.findSkill skill).isSome := by
  simp [hasSkill, hne]

theorem skillSet_iff (hne : id.toNat ≠ 0) (hpos : t'.posOf id.toNat = some pos)
    (hvalue : t'.fields (playerSkillValueIndex pos) =
      makePair32 (newVal.setWidth 32) (maxVal.setWidth 32)) (step : BitVec 16) :
    t'.SkillSet id step newVal maxVal ↔ pair32Hipart (t'.fields (playerSkillIndex pos)) = step := by
  simp [SkillSet, getSkillStep, getPureSkillValue, getPureMaxSkillValue,
    skillNumber_of_posOf hpos hne, hvalue]

theorem exists_freePos (hfree : ∃ pos < playerMaxSkills, t.fields (playerSkillIndex pos) = 0) :
    ∃ i, t.freePos = some i := by
  obtain ⟨pos, hpos, hzero⟩ := hfree
  rw [← Option.isSome_iff_exists, freePos, List.find?_isSome]
  exact ⟨pos, List.mem_range.mpr hpos, by simpa using hzero⟩

section Call

variable (ht : t.Sound) (skillLine : ℕ → Bool) (modSkill modSkillTalent : List SkillAura)
  (id step newVal maxVal : BitVec 16)

/-- A call that does not set the skill leaves the table as it is, or the skill unknown. -/
theorem not_skillSet_of_none (hval : newVal ≠ 0) (h : t'.findSkill id.toNat = none) :
    ¬t'.SkillSet id step newVal maxVal := by
  rintro ⟨_, hvalue, _⟩
  rw [getPureSkillValue, skillNumber_of_none h] at hvalue
  exact hval hvalue.symm

include ht

theorem skillSet_setSkill_iff (hval : newVal ≠ 0)
    (hplace : t.hasSkill id.toNat = true ∨
      ∃ pos < playerMaxSkills, t.fields (playerSkillIndex pos) = 0) :
    (t.setSkill skillLine modSkill modSkillTalent id step newVal maxVal).SkillSet id step newVal
      maxVal ↔ t.StepRight skillLine id step := by
  by_cases hid : id = 0
  · have hnone : t.findSkill id.toNat = none := by
      by_contra hsome
      obtain ⟨status, hstatus⟩ := Option.ne_none_iff_exists'.mp hsome
      exact (ht.skill _ _ (posOf_of_findSkill hstatus)).2.1 (by simp [hid])
    rw [setSkill, if_pos hid]
    exact iff_of_false (not_skillSet_of_none id step newVal maxVal hval hnone)
      fun hright => hright.1 hid
  have hne := id_toNat_ne_zero hid
  rw [StepRight, hasSkill_eq hne]
  rw [hasSkill_eq hne] at hplace
  cases hfind : t.findSkill id.toNat with
  | some status =>
    -- the fields of the position keep the old step
    obtain ⟨_, hskill, hindex, hvalue⟩ := changeSkill_spec hfind step newVal maxVal
    rw [setSkill_known hid hfind, if_pos hval, skillSet_iff hne hskill hvalue, hindex,
      getSkillStep, skillNumber_of_posOf (posOf_of_findSkill hfind) hne, Option.isSome_some,
      if_pos rfl, and_iff_right hid]
  | none =>
    obtain ⟨i, hfree⟩ := exists_freePos (hplace.resolve_left (by simp [hfind]))
    rw [setSkill, if_neg hid, hfind, Option.isSome_none, if_neg Bool.false_ne_true,
      and_iff_right hid]
    simp only [if_pos hval, hfree]
    by_cases hline : skillLine id.toNat = true
    · obtain ⟨_, hskill, hindex, hvalue⟩ :=
        addSkill_spec t modSkill modSkillTalent i id step newVal maxVal
      rw [if_pos hline, skillSet_iff hne hskill hvalue, hindex]
      simp [hline]
    · rw [if_neg hline]
      exact iff_of_false (not_skillSet_of_none id step newVal maxVal hval hfind) hline

/-- **The other skills** are what they were. -/
theorem sameSkill_setSkill {other : ℕ} (hother : other ≠ id.toNat) :
    SameSkill t (t.setSkill skillLine modSkill modSkillTalent id step newVal maxVal) other := by
  have hchanged : ∀ pos t', ChangesOnly id.toNat pos t t' → t.posOf other ≠ some pos →
      SameSkill t t' other := by
    intro pos t' hchanges hne
    exact ⟨hchanges.skills other hother, fun p hp => hchanges.fields p fun heq => hne (heq ▸ hp)⟩
  have hsame : SameSkill t t other := ⟨rfl, fun _ _ => ⟨rfl, rfl, rfl⟩⟩
  by_cases hid : id = 0
  · rw [setSkill, if_pos hid]
    exact hsame
  cases hfind : t.findSkill id.toNat with
  | some status =>
    have hne : t.posOf other ≠ some status.pos := fun h =>
      hother (ht.posOf_inj h (posOf_of_findSkill hfind))
    rw [setSkill_known hid hfind]
    split_ifs
    · exact hchanged _ _ (changeSkill_spec hfind step newVal maxVal).1 hne
    · exact hchanged _ _ (removeSkill_spec t id status).1 hne
  | none =>
    rcases setSkill_unknown hid hfind skillLine modSkill modSkillTalent step newVal maxVal with
      heq | ⟨i, _, hfree, _, hadd⟩
    · rw [heq]
      exact hsame
    · rw [hadd]
      refine hchanged i _ (addSkill_spec t modSkill modSkillTalent i id step newVal maxVal).1 ?_
      exact fun h => ht.used_of_posOf h (freePos_spec hfree).2

/-- **A skill without a value** is unknown, and its position may be used again. -/
theorem setSkill_remove :
    (t.setSkill skillLine modSkill modSkillTalent id step 0 maxVal).hasSkill id.toNat = false ∧
      ∀ pos, t.posOf id.toNat = some pos →
        (t.setSkill skillLine modSkill modSkillTalent id step 0 maxVal).fields
          (playerSkillIndex pos) = 0 := by
  by_cases hid : id = 0
  · refine ⟨by simp [hid, hasSkill], fun pos hpos => ?_⟩
    exact absurd (by simp [hid]) (ht.skill _ _ hpos).2.1
  have hne := id_toNat_ne_zero hid
  rw [hasSkill_eq hne]
  cases hfind : t.findSkill id.toNat with
  | some status =>
    obtain ⟨_, hskill, hfree⟩ := removeSkill_spec t id status
    rw [setSkill_known hid hfind, if_neg (not_not.mpr rfl)]
    refine ⟨by simpa [posOf] using hskill, fun pos hpos => ?_⟩
    cases (posOf_of_findSkill hfind).symm.trans hpos
    exact hfree
  | none =>
    have hsame : t.setSkill skillLine modSkill modSkillTalent id step 0 maxVal = t := by
      simp [setSkill, hfind]
    rw [hsame]
    exact ⟨by simp [hfind], fun pos hpos => by simp [posOf, hfind] at hpos⟩

end Call

/-- **The skill table**, after any number of operations: the known skills and the used positions
correspond one to one; and one more call changes no other skill, gives up the position of a skill
that gets no value, and sets the skill when its step is right. -/
theorem setSkill_spec (skillLine : ℕ → Bool) (start : SkillTable) (hstart : start.Sound)
    (ops : List SkillOp) :
    let t := run (step skillLine) start ops
    (∀ skill pos, t.posOf skill = some pos → pos < playerMaxSkills ∧
      (pair32Lopart (t.fields (playerSkillIndex pos))).toNat = skill) ∧
    (∀ pos < playerMaxSkills, t.fields (playerSkillIndex pos) ≠ 0 ↔
      ∃! skill, t.posOf skill = some pos) ∧
    ∀ modSkill modSkillTalent id step newVal maxVal,
      let t' := t.setSkill skillLine modSkill modSkillTalent id step newVal maxVal
      (∀ other, other ≠ id.toNat → SameSkill t t' other) ∧
      (newVal ≠ 0 → (t.hasSkill id.toNat = true ∨
          ∃ pos < playerMaxSkills, t.fields (playerSkillIndex pos) = 0) →
        (t'.SkillSet id step newVal maxVal ↔ t.StepRight skillLine id step)) ∧
      (newVal = 0 → t'.hasSkill id.toNat = false ∧
        ∀ pos, t.posOf id.toNat = some pos → t'.fields (playerSkillIndex pos) = 0) := by
  intro t
  have ht : t.Sound := foldl_invariant Sound (fun t op _ ht => ht.step skillLine op) hstart
  refine ⟨fun skill pos h => ⟨(ht.skill _ _ h).1, (ht.skill _ _ h).2.2⟩,
    fun pos hpos => ht.used_iff hpos, fun modSkill modSkillTalent id step newVal maxVal => ?_⟩
  refine ⟨fun other hother => ?_, fun hval hplace => ?_, ?_⟩
  · exact sameSkill_setSkill ht skillLine modSkill modSkillTalent id step newVal maxVal hother
  · exact skillSet_setSkill_iff ht skillLine modSkill modSkillTalent id step newVal maxVal hval
      hplace
  · rintro rfl
    exact setSkill_remove ht skillLine modSkill modSkillTalent id step maxVal

/-- A skill that was learned and raised is set again, with the same step. -/
theorem setSkill_spec_sameStep :
    ((run (step fun skill => skill == 164) empty
        [.setSkill [] [] 164 1 50 75, .updateSkill 164 5]).setSkill (fun skill => skill == 164)
      [] [] 164 1 60 75).SkillSet 164 1 60 75 := by
  have hspec := setSkill_spec (fun skill => skill == 164) empty sound_empty
    [.setSkill [] [] 164 1 50 75, .updateSkill 164 5]
  have hcall := (hspec.2.2 [] [] 164 1 60 75).2.1 (by decide) (.inl (by decide +kernel))
  exact hcall.mpr (by decide +kernel)

/-- A known skill does not get the next step. -/
theorem not_skillSet_nextStep :
    (run (step fun skill => skill == 164) empty
        [.setSkill [] [] 164 1 50 75]).hasSkill 164 = true ∧
      ¬((run (step fun skill => skill == 164) empty
          [.setSkill [] [] 164 1 50 75]).setSkill (fun skill => skill == 164)
        [] [] 164 2 75 150).SkillSet 164 2 75 150 := by
  decide +kernel

end SkillTable

end TeraCore
