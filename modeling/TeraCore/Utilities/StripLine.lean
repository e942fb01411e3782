import Mathlib.Data.List.Infix
import TeraCore.Commons.Runs

/-!
# Invisible characters of a line

`stripLineInvisibleChars` writes a line over itself.  It reads the characters one after another and
writes behind the place where it reads; a run of blanks, tabs, bells and newlines is written as one
blank.  A line that would show an interface picture is emptied.

## Main definitions

* `stripTurn`: a turn of the loop
* `Stripped`: what the string and the cursor are after some turns

## Main results

* `stripLoop_stripped`: the invariant of the loop
* `stripLineInvisibleChars_normalForm`: what is left of a line
-/

namespace TeraCore.Utilities

open Commons

def invChars : List Char := [' ', '\t', '\x07', '\n']

/-- `invChars.find(c) != npos` -/
def isInvChar (c : Char) : Bool := c ∈ invChars

/-- The string, the position to write at, and whether what was read last was written as a blank. -/
structure StripLoop where
  str : List Char
  wpos : ℕ
  space : Bool

def stripTurn (s : StripLoop) (pos : ℕ) : StripLoop :=
  let c := s.str.getD pos '\x00'
  if isInvChar c then
    if !s.space then ⟨s.str.set s.wpos ' ', s.wpos + 1, true⟩ else s
  else if s.wpos ≠ pos then ⟨s.str.set s.wpos c, s.wpos + 1, false⟩
  else ⟨s.str, s.wpos + 1, false⟩

/-- The loop, up to a position. -/
def stripLoop (str : List Char) (pos : ℕ) : StripLoop :=
  (List.range pos).foldl stripTurn ⟨str, 0, false⟩

def interfacePicture : List Char := "|TInterface".toList

def stripLineInvisibleChars (str : List Char) : List Char :=
  let s := stripLoop str str.length
  let str := if s.wpos < s.str.length then s.str.take s.wpos else s.str
  if interfacePicture <:+: str then [] else str

/-! ## The loop -/

/-- The line with each run of invisible characters as one blank. -/
def collapsed (str : List Char) : List Char := collapse isInvChar ' ' str

/-- **What has been written and what is still to be read.**  Between the two there is what was read
before. -/
structure Stripped (str : List Char) (pos : ℕ) (s : StripLoop) : Prop where
  length : s.str.length = str.length
  behind : s.wpos ≤ pos
  written : s.str.take s.wpos = collapsed (str.take pos)
  unread : s.str.drop pos = str.drop pos
  space : s.space = endsIn isInvChar (str.take pos)

variable {str : List Char} {pos : ℕ} {s : StripLoop}

theorem collapsed_concat (str : List Char) (c : Char) : collapsed (str ++ [c]) =
    if isInvChar c then (if endsIn isInvChar str then collapsed str else collapsed str ++ [' '])
    else collapsed str ++ [c] :=
  collapse_concat str c

theorem take_set_succ {l : List Char} {n : ℕ} {c : Char} (h : n < l.length) :
    (l.set n c).take (n + 1) = l.take n ++ [c] := by
  rw [List.take_succ_eq_append_getElem (by simpa using h), List.take_set_of_le (le_refl n),
    List.getElem_set_self]

theorem Stripped.turn (h : Stripped str pos s) (hpos : pos < str.length) :
    Stripped str (pos + 1) (stripTurn s pos) := by
  have hread : s.str.getD pos '\x00' = str[pos] := by
    have hdrop := congrArg (fun l => l.head?) h.unread
    simpa [List.head?_drop, List.getD_eq_getElem?_getD, hpos] using congrArg (·.getD '\x00') hdrop
  have htake : str.take (pos + 1) = str.take pos ++ [str[pos]] :=
    List.take_succ_eq_append_getElem hpos
  have hnext : s.str.drop (pos + 1) = str.drop (pos + 1) := by
    rw [← List.drop_drop, h.unread, List.drop_drop]
  have hwpos : s.wpos < s.str.length := by
    have := h.behind
    have := h.length
    omega
  have hdrop : ∀ c, (s.str.set s.wpos c).drop (pos + 1) = str.drop (pos + 1) := fun c => by
    rw [List.drop_set_of_lt (Nat.lt_succ_of_le h.behind), hnext]
  unfold stripTurn
  simp only [hread]
  split_ifs with hinv hspace hne
  · have hends : endsIn isInvChar (str.take pos) = false := by simpa [h.space] using hspace
    refine ⟨by simp [h.length], Nat.succ_le_succ h.behind, ?_, hdrop _, ?_⟩
    · rw [take_set_succ hwpos, h.written, htake, collapsed_concat, if_pos hinv, hends]
      rfl
    · rw [htake, endsIn_concat, hinv]
  · have hends : endsIn isInvChar (str.take pos) = true := by simpa [h.space] using hspace
    refine ⟨h.length, Nat.le_succ_of_le h.behind, ?_, hnext, ?_⟩
    · rw [h.written, htake, collapsed_concat, if_pos hinv, if_pos hends]
    · rw [h.space, hends, htake, endsIn_concat, hinv]
  · refine ⟨by simp [h.length], Nat.succ_le_succ h.behind, ?_, hdrop _, ?_⟩
    · rw [take_set_succ hwpos, h.written, htake, collapsed_concat, if_neg hinv]
    · rw [htake, endsIn_concat, Bool.eq_false_iff.mpr hinv]
  · -- nothing is written, since the character is already where it belongs
    have hat : s.wpos = pos := not_not.mp hne
    refine ⟨h.length, Nat.succ_le_succ h.behind, ?_, hnext, ?_⟩
    · have hself : s.str[s.wpos] = str[pos] := by
        simp [← hread, hat, List.getD_eq_getElem?_getD, hat ▸ hwpos]
      rw [List.take_succ_eq_append_getElem hwpos, hself, h.written, htake, collapsed_concat,
        if_neg hinv]
    · rw [htake, endsIn_concat, Bool.eq_false_iff.mpr hinv]

theorem stripLoop_stripped (hpos : pos ≤ str.length) : Stripped str pos (stripLoop str pos) := by
  induction pos with
  | zero => exact ⟨rfl, le_rfl, rfl, rfl, rfl⟩
  | succ pos ih =>
    have hloop : stripLoop str (pos + 1) = stripTurn (stripLoop str pos) pos := by
      simp [stripLoop, List.range_succ]
    rw [hloop]
    exact (ih (Nat.le_of_succ_le hpos)).turn hpos

/-! ## What is left -/

theorem stripLineInvisibleChars_eq (str : List Char) : stripLineInvisibleChars str =
    if interfacePicture <:+: collapsed str then [] else collapsed str := by
  have h := stripLoop_stripped (le_refl str.length)
  have hwritten := h.written
  rw [List.take_length] at hwritten
  have herased : (if (stripLoop str str.length).wpos < (stripLoop str str.length).str.length
      then (stripLoop str str.length).str.take (stripLoop str str.length).wpos
      else (stripLoop str str.length).str) = collapsed str := by
    split_ifs with hlt
    · exact hwritten
    · rw [← hwritten, List.take_of_length_le (not_lt.mp hlt)]
  rw [stripLineInvisibleChars, herased]

theorem isInvChar_blank : isInvChar ' ' = true := by decide

theorem collapsed_collapsed (str : List Char) : collapsed (collapsed str) = collapsed str :=
  collapse_collapse isInvChar_blank str

theorem stripLineInvisibleChars_idem (str : List Char) :
    stripLineInvisibleChars (stripLineInvisibleChars str) = stripLineInvisibleChars str := by
  rw [stripLineInvisibleChars_eq str]
  split_ifs with hpicture
  · rfl
  · rw [stripLineInvisibleChars_eq, collapsed_collapsed, if_neg hpicture]

/-- **A line is brought to a normal form**: its runs of invisible characters are single blanks, what
is visible is kept, and only a line with an interface picture is emptied.  The position that is
written at is never ahead of the one that is read. -/
theorem stripLineInvisibleChars_normalForm (str : List Char) :
    stripLineInvisibleChars str =
        (if interfacePicture <:+: collapsed str then [] else collapsed str) ∧
      (collapsed str).filter (!isInvChar ·) = str.filter (!isInvChar ·) ∧
      stripLineInvisibleChars (stripLineInvisibleChars str) = stripLineInvisibleChars str ∧
      (stripLineInvisibleChars str = [] ↔ interfacePicture <:+: collapsed str ∨ str = []) ∧
      ∀ pos ≤ str.length, (stripLoop str pos).wpos ≤ pos := by
  refine ⟨stripLineInvisibleChars_eq str, filter_collapse isInvChar_blank str,
    stripLineInvisibleChars_idem str, ?_, fun pos hpos => (stripLoop_stripped hpos).behind⟩
  rw [stripLineInvisibleChars_eq]
  split_ifs with hpicture
  · exact iff_of_true rfl (.inl hpicture)
  · rw [or_iff_right hpicture]
    exact collapse_eq_nil_iff

example : stripLineInvisibleChars "\n a \t b".toList = " a b".toList := by decide +kernel

end TeraCore.Utilities
