import Mathlib.Algebra.GroupWithZero.Nat
import Mathlib.Algebra.BigOperators.Group.List.Basic

/-!
# Times as strings

A time is printed as numbers of days, hours, minutes and seconds, each with the letter of its unit,
and units that are zero are left out.  The reader adds up numbers with such letters in 32 bits, and
answers 0 when it meets any other character.

## Main results

* `timeStringToSecs_text`: numbers with units are added up
* `timeStringToSecs_of_other`: another character makes the answer 0
* `secsToTimeString_eq`: what is printed are numbers with units
* `timeStrings_roundTrip`: the three together
-/

namespace TeraCore.Utilities

abbrev MINUTE : ℕ := 60

abbrev HOUR : ℕ := MINUTE * 60

abbrev DAY : ℕ := HOUR * 24

/-- `ss << n` -/
def decimal (n : ℕ) : List Char := Nat.toDigits 10 n

/-- **`secsToTimeString`** -/
def secsToTimeString (timeInSecs : ℕ) (shortText hoursOnly : Bool) : List Char :=
  let secs := timeInSecs % MINUTE
  let minutes := timeInSecs % HOUR / MINUTE
  let hours := timeInSecs % DAY / HOUR
  let days := timeInSecs / DAY
  (if days ≠ 0 then decimal days ++ (if shortText then "d" else " Day(s) ").toList else []) ++
    (if hours ≠ 0 ∨ hoursOnly then
      decimal hours ++ (if shortText then "h" else " Hour(s) ").toList else []) ++
    (if !hoursOnly then
      (if minutes ≠ 0 then
        decimal minutes ++ (if shortText then "m" else " Minute(s) ").toList else []) ++
      (if secs ≠ 0 ∨ days = 0 ∧ hours = 0 ∧ minutes = 0 then
        decimal secs ++ (if shortText then "s" else " Second(s).").toList else [])
    else [])

/-- The variables of `TimeStringToSecs`. -/
structure TimeReader where
  secs : BitVec 32
  buffer : BitVec 32

/-- The multiplier of a letter. -/
def multiplier : Char → Option ℕ
  | 'd' => some DAY
  | 'h' => some HOUR
  | 'm' => some MINUTE
  | 's' => some 1
  | _ => none

/-- **A character is read**, unless the format is bad. -/
def TimeReader.read (s : TimeReader) (c : Char) : Option TimeReader :=
  if c.isDigit then some ⟨s.secs, s.buffer * 10 + BitVec.ofNat 32 (c.toNat - '0'.toNat)⟩
  else (multiplier c).map fun m => ⟨s.secs + s.buffer * BitVec.ofNat 32 m, 0⟩

def timeStringToSecs (timestring : List Char) : BitVec 32 :=
  match timestring.foldlM TimeReader.read ⟨0, 0⟩ with
  | some s => s.secs
  | none => 0

/-! ## Numbers with units -/

inductive TimeUnit where
  | d | h | m | s
  deriving DecidableEq

namespace TimeUnit

def letter : TimeUnit → Char
  | d => 'd'
  | h => 'h'
  | m => 'm'
  | s => 's'

def secs : TimeUnit → ℕ
  | d => DAY
  | h => HOUR
  | m => MINUTE
  | s => 1

theorem multiplier_letter (unit : TimeUnit) : multiplier unit.letter = some unit.secs := by
  cases unit <;> rfl

theorem isDigit_letter (unit : TimeUnit) : unit.letter.isDigit = false := by
  cases unit <;> decide

theorem eq_letter_of_multiplier {c : Char} {m : ℕ} (h : multiplier c = some m) :
    ∃ unit : TimeUnit, c = unit.letter := by
  unfold multiplier at h
  split at h
  · exact ⟨d, rfl⟩
  · exact ⟨TimeUnit.h, rfl⟩
  · exact ⟨TimeUnit.m, rfl⟩
  · exact ⟨s, rfl⟩
  · cases h

end TimeUnit

/-- **A decimal number with a unit.** -/
structure TimeAmount where
  digits : List Char
  unit : TimeUnit
  nonempty : digits ≠ []
  isDigit : ∀ c ∈ digits, c.isDigit = true

namespace TimeAmount

def text (a : TimeAmount) : List Char := a.digits ++ [a.unit.letter]

def secs (a : TimeAmount) : ℕ := Nat.ofDigitChars 10 a.digits 0 * a.unit.secs

variable (n : ℕ) (unit : TimeUnit)

/-- The number `n` as it is printed. -/
def ofNat : TimeAmount where
  digits := decimal n
  unit := unit
  nonempty := Nat.toDigits_ne_nil
  isDigit _ := Nat.isDigit_of_mem_toDigits (by decide) (by decide)

@[simp] theorem text_ofNat : (ofNat n unit).text = decimal n ++ [unit.letter] := rfl

@[simp] theorem secs_ofNat : (ofNat n unit).secs = n * unit.secs := by
  exact congrArg (· * unit.secs) Nat.ofDigitChars_ten_toDigits

end TimeAmount

/-! ## Reading -/

variable {l rest : List Char}

theorem foldlM_read_digits (h : ∀ c ∈ l, c.isDigit = true) (secs : BitVec 32) (n : ℕ) :
    l.foldlM TimeReader.read ⟨secs, BitVec.ofNat 32 n⟩ =
      some ⟨secs, BitVec.ofNat 32 (Nat.ofDigitChars 10 l n)⟩ := by
  induction l generalizing n with
  | nil => rfl
  | cons c l ih =>
    have hc : c.isDigit = true := h c List.mem_cons_self
    have hread : TimeReader.read ⟨secs, BitVec.ofNat 32 n⟩ c =
        some ⟨secs, BitVec.ofNat 32 (10 * n + (c.toNat - '0'.toNat))⟩ := by
      rw [TimeReader.read, if_pos hc, BitVec.ofNat_add, BitVec.ofNat_mul, BitVec.mul_comm]
      rfl
    rw [List.foldlM_cons, hread, Nat.ofDigitChars_cons]
    exact ih (fun c hc => h c (List.mem_cons_of_mem _ hc)) _

theorem foldlM_read_text (a : TimeAmount) (total : ℕ) :
    a.text.foldlM TimeReader.read ⟨BitVec.ofNat 32 total, 0⟩ =
      some ⟨BitVec.ofNat 32 (total + a.secs), 0⟩ := by
  have hdigits : a.digits.foldlM TimeReader.read ⟨BitVec.ofNat 32 total, 0⟩ = _ :=
    foldlM_read_digits a.isDigit (BitVec.ofNat 32 total) 0
  rw [TimeAmount.text, List.foldlM_append, hdigits]
  simp only [Option.bind_eq_bind, Option.bind_some, List.foldlM_cons, List.foldlM_nil,
    TimeReader.read, a.unit.isDigit_letter, a.unit.multiplier_letter]
  rw [TimeAmount.secs, BitVec.ofNat_add, BitVec.ofNat_mul]
  rfl

theorem foldlM_read_texts (amounts : List TimeAmount) (total : ℕ) :
    (amounts.flatMap TimeAmount.text).foldlM TimeReader.read ⟨BitVec.ofNat 32 total, 0⟩ =
      some ⟨BitVec.ofNat 32 (total + (amounts.map TimeAmount.secs).sum), 0⟩ := by
  induction amounts generalizing total with
  | nil => rfl
  | cons a amounts ih =>
    rw [List.flatMap_cons, List.foldlM_append, foldlM_read_text, List.map_cons, List.sum_cons,
      ← Nat.add_assoc]
    exact ih (total + a.secs)

theorem timeStringToSecs_text (amounts : List TimeAmount) :
    timeStringToSecs (amounts.flatMap TimeAmount.text) =
      BitVec.ofNat 32 (amounts.map TimeAmount.secs).sum := by
  have hread := foldlM_read_texts amounts 0
  rw [Nat.zero_add] at hread
  unfold timeStringToSecs
  rw [show (⟨0, 0⟩ : TimeReader) = ⟨BitVec.ofNat 32 0, 0⟩ from rfl, hread]

/-- **A bad character** makes the answer 0, whatever stands before and after it. -/
theorem timeStringToSecs_of_other {timestring : List Char} {c : Char} (hc : c ∈ timestring)
    (hdigit : c.isDigit = false) (hunit : ∀ unit : TimeUnit, c ≠ unit.letter) :
    timeStringToSecs timestring = 0 := by
  have hnone : multiplier c = none := Option.eq_none_iff_forall_ne_some.mpr fun m hm => by
    obtain ⟨unit, hu⟩ := TimeUnit.eq_letter_of_multiplier hm
    exact hunit unit hu
  obtain ⟨before, after, rfl⟩ := List.append_of_mem hc
  have hfold : (before ++ c :: after).foldlM TimeReader.read ⟨0, 0⟩ = none := by
    rw [List.foldlM_append]
    cases before.foldlM TimeReader.read ⟨0, 0⟩ with
    | none => rfl
    | some s => simp [TimeReader.read, hdigit, hnone]
  rw [timeStringToSecs, hfold]

/-! ## Printing -/

/-- The numbers with units that are printed for a time. -/
def printedAmounts (t : ℕ) : List TimeAmount :=
  let secs := t % MINUTE
  let minutes := t % HOUR / MINUTE
  let hours := t % DAY / HOUR
  let days := t / DAY
  (if days ≠ 0 then [.ofNat days .d] else []) ++ (if hours ≠ 0 then [.ofNat hours .h] else []) ++
    (if minutes ≠ 0 then [.ofNat minutes .m] else []) ++
    (if secs ≠ 0 ∨ days = 0 ∧ hours = 0 ∧ minutes = 0 then [.ofNat secs .s] else [])

theorem text_ite (b : Prop) [Decidable b] (a : TimeAmount) :
    (if b then [a] else []).flatMap TimeAmount.text = if b then a.text else [] := by
  split_ifs <;> simp

theorem secsToTimeString_eq (t : ℕ) :
    secsToTimeString t true false = (printedAmounts t).flatMap TimeAmount.text := by
  unfold secsToTimeString printedAmounts
  simp only [List.flatMap_append, text_ite]
  simp [TimeUnit.letter]

theorem sum_ite {n : ℕ} {b : Prop} [Decidable b] (unit : TimeUnit) (h : ¬b → n = 0) :
    ((if b then [TimeAmount.ofNat n unit] else []).map TimeAmount.secs).sum = n * unit.secs := by
  split_ifs with hb
  · simp
  · simp [h hb]

/-- **The numbers that are printed** add up to the time. -/
theorem sum_printedAmounts (t : ℕ) : ((printedAmounts t).map TimeAmount.secs).sum = t := by
  unfold printedAmounts
  simp only [List.map_append, List.sum_append]
  rw [sum_ite .d not_not.mp, sum_ite .h not_not.mp, sum_ite .m not_not.mp,
    sum_ite .s fun hn => not_not.mp (not_or.mp hn).1]
  simp only [TimeUnit.secs, DAY, HOUR, MINUTE]
  omega

/-- **Times come back**, numbers with units are added up as long as the total fits in 32 bits, and
another character makes the answer 0. -/
theorem timeStrings_roundTrip :
    (∀ t : BitVec 32, timeStringToSecs (secsToTimeString t.toNat true false) = t) ∧
    (∀ amounts : List TimeAmount, (amounts.map TimeAmount.secs).sum < 2 ^ 32 →
      (timeStringToSecs (amounts.flatMap TimeAmount.text)).toNat =
        (amounts.map TimeAmount.secs).sum) ∧
    ∀ timestring : List Char, (∃ c ∈ timestring, c.isDigit = false ∧
      ∀ unit : TimeUnit, c ≠ unit.letter) → timeStringToSecs timestring = 0 := by
  refine ⟨fun t => ?_, fun amounts hfits => ?_, ?_⟩
  · rw [secsToTimeString_eq, timeStringToSecs_text, sum_printedAmounts, BitVec.ofNat_toNat,
      BitVec.setWidth_eq]
  · rw [timeStringToSecs_text, BitVec.toNat_ofNat, Nat.mod_eq_of_lt hfits]
  · rintro timestring ⟨c, hc, hdigit, hunit⟩
    exact timeStringToSecs_of_other hc hdigit hunit

example : secsToTimeString 93605 true false = "1d2h5s".toList := by decide

end TeraCore.Utilities
