import Mathlib.Algebra.GroupWithZero.Nat
import Mathlib.Data.Int.Basic
import Mathlib.Data.List.Basic
import Mathlib.Data.List.Flatten
import Mathlib.Data.List.TakeWhile

/-!
# The lines of a character dump

A row of a table is written as one INSERT statement on a line of its own.  Its values stand in
quotes and are escaped, so that no value ends its line or its quotes, and a line says which row it
is.

## Main results

* `escapeString_append_inj`: an escaped value in quotes can be read back
* `createDumpString_inj`: a line says which table its row is of, and which texts the row has
* `splitOn_dumpText`: the lines of a text of lines
-/

namespace TeraCore

/-- A text; its characters stand for bytes. -/
abbrev Text := List Char

/-- A value of a row: a text, or NULL. -/
abbrev SqlField := Option Text

abbrev Row := List SqlField

/-! ## Values -/

def isSpace (c : Char) : Bool := c = ' ' || 0x09 ≤ c.toNat && c.toNat ≤ 0x0D

/-- The digits at the beginning of a text. -/
def digitsValue (text : Text) : ℕ := Nat.ofDigitChars 10 (text.takeWhile Char.isDigit) 0

/-- The number at the beginning of a text, after blanks and a sign; one that is too large for a long
becomes the largest. -/
def atol (text : Text) : ℤ :=
  let number : ℤ := match text.dropWhile isSpace with
    | '-' :: digits => -(digitsValue digits : ℤ)
    | '+' :: digits => digitsValue digits
    | digits => digitsValue digits
  max (-0x8000000000000000) (min 0x7FFFFFFFFFFFFFFF number)

/-- The number as a uint32. -/
def uint32OfText (text : Text) : ℕ := (atol text % 0x100000000).toNat

namespace SqlField

/-- NULL is the empty text. -/
def getString (field : SqlField) : Text := field.getD []

def getUInt32 (field : SqlField) : ℕ := uint32OfText field.getString

end SqlField

namespace Row

/-- The value in a column, counted from 0. -/
def field (row : Row) (column : ℕ) : SqlField := row.getD column none

/-- The texts of the values. -/
def texts (row : Row) : List Text := row.map SqlField.getString

end Row

/-! ## Lines -/

/-- The letter that stands for a character in its escape, if the client escapes it. -/
def escapeLetter : Char → Option Char
  | '\x00' => some '0'
  | '\n' => some 'n'
  | '\r' => some 'r'
  | '\\' => some '\\'
  | '\'' => some '\''
  | '"' => some '"'
  | '\x1a' => some 'Z'
  | _ => none

def escapeChar (c : Char) : Text :=
  match escapeLetter c with
  | some letter => ['\\', letter]
  | none => [c]

/-- The escapes of the database client. -/
def escapeString (text : Text) : Text := text.flatMap escapeChar

/-- The values of a line after the first one, and its end. -/
def dumpRest : List Text → Text
  | [] => [')', ';']
  | text :: texts => [',', ' ', '\''] ++ text ++ '\'' :: dumpRest texts

/-- The values of a line, and its end. -/
def dumpValues : List Text → Text
  | [] => [')', ';']
  | text :: texts => '\'' :: text ++ '\'' :: dumpRest texts

variable (tableName : String)

/-- A line without its values. -/
def insertInto : Text :=
  "INSERT INTO `".toList ++ (tableName.toList ++ '`' :: " VALUES (".toList)

/-- The line of values that are escaped. -/
def dumpLine (texts : List Text) : Text :=
  insertInto tableName ++ dumpValues texts

/-- **The line of a row.** -/
def createDumpString (row : Row) : Text :=
  dumpLine tableName (row.texts.map escapeString)

/-- Lines, each with a newline after it. -/
def dumpText (lines : List Text) : Text := lines.flatMap fun line => line ++ ['\n']

/-! ## What is in a line -/

theorem escapeChar_of_none {c : Char} (h : escapeLetter c = none) : escapeChar c = [c] := by
  rw [escapeChar, h]

theorem escapeChar_of_some {c letter : Char} (h : escapeLetter c = some letter) :
    escapeChar c = ['\\', letter] := by
  rw [escapeChar, h]

theorem escapeLetter_injective {c c' letter : Char} (h : escapeLetter c = some letter)
    (h' : escapeLetter c' = some letter) : c = c' := by
  unfold escapeLetter at h h'
  split at h <;> split at h' <;>
    first | rfl | exact absurd (h.trans h'.symm) (by decide) | cases h

/-- A character that is not escaped is neither a quote nor a backslash, and does not end a line. -/
theorem plain_of_escapeLetter {c : Char} (h : escapeLetter c = none) :
    c ≠ '\'' ∧ c ≠ '\\' ∧ c ≠ '\n' := by
  refine ⟨?_, ?_, ?_⟩ <;> rintro rfl <;> cases h

@[simp] theorem escapeString_cons (c : Char) (text : Text) :
    escapeString (c :: text) = escapeChar c ++ escapeString text := List.flatMap_cons

theorem escapeChar_append_ne_quote (c : Char) (rest post : Text) :
    escapeChar c ++ rest ≠ '\'' :: post := by
  cases hc : escapeLetter c with
  | none =>
    rw [escapeChar_of_none hc]
    exact fun heq => (plain_of_escapeLetter hc).1 (List.cons.inj heq).1
  | some letter =>
    rw [escapeChar_of_some hc]
    exact fun heq => absurd (List.cons.inj heq).1 (by decide)

theorem escapeChar_append_inj {c c' : Char} {rest rest' : Text}
    (h : escapeChar c ++ rest = escapeChar c' ++ rest') : c = c' ∧ rest = rest' := by
  cases hc : escapeLetter c with
  | none =>
    cases hc' : escapeLetter c' with
    | none =>
      rw [escapeChar_of_none hc, escapeChar_of_none hc'] at h
      exact List.cons.inj h
    | some letter' =>
      rw [escapeChar_of_none hc, escapeChar_of_some hc'] at h
      exact absurd (List.cons.inj h).1 (plain_of_escapeLetter hc).2.1
  | some letter =>
    cases hc' : escapeLetter c' with
    | none =>
      rw [escapeChar_of_some hc, escapeChar_of_none hc'] at h
      exact absurd (List.cons.inj h).1.symm (plain_of_escapeLetter hc').2.1
    | some letter' =>
      rw [escapeChar_of_some hc, escapeChar_of_some hc'] at h
      obtain ⟨rfl, hrest⟩ := List.cons.inj (List.cons.inj h).2
      exact ⟨escapeLetter_injective hc hc', hrest⟩

/-- **An escaped value in quotes can be read back.** -/
theorem escapeString_append_inj {text text' post post' : Text}
    (h : escapeString text ++ '\'' :: post = escapeString text' ++ '\'' :: post') :
    text = text' ∧ post = post' := by
  induction text generalizing text' with
  | nil =>
    cases text' with
    | nil => exact ⟨rfl, (List.cons.inj h).2⟩
    | cons c' text' =>
      rw [escapeString_cons, List.append_assoc] at h
      exact absurd h.symm (escapeChar_append_ne_quote c' _ _)
  | cons c text ih =>
    cases text' with
    | nil =>
      rw [escapeString_cons, List.append_assoc] at h
      exact absurd h (escapeChar_append_ne_quote c _ _)
    | cons c' text' =>
      rw [escapeString_cons, escapeString_cons, List.append_assoc, List.append_assoc] at h
      obtain ⟨rfl, hrest⟩ := escapeChar_append_inj h
      obtain ⟨rfl, hpost⟩ := ih hrest
      exact ⟨rfl, hpost⟩

theorem dumpRest_inj {texts texts' : List Text}
    (h : dumpRest (texts.map escapeString) = dumpRest (texts'.map escapeString)) :
    texts = texts' := by
  induction texts generalizing texts' with
  | nil =>
    cases texts' with
    | nil => rfl
    | cons text' texts' => simp [dumpRest] at h
  | cons text texts ih =>
    cases texts' with
    | nil => simp [dumpRest] at h
    | cons text' texts' =>
      simp only [List.map_cons, dumpRest, List.append_assoc, List.append_cancel_left_eq] at h
      obtain ⟨rfl, hrest⟩ := escapeString_append_inj h
      rw [ih hrest]

theorem dumpValues_inj {texts texts' : List Text}
    (h : dumpValues (texts.map escapeString) = dumpValues (texts'.map escapeString)) :
    texts = texts' := by
  cases texts with
  | nil =>
    cases texts' with
    | nil => rfl
    | cons text' texts' => simp [dumpValues] at h
  | cons text texts =>
    cases texts' with
    | nil => simp [dumpValues] at h
    | cons text' texts' =>
      simp only [List.map_cons, dumpValues, List.cons_append, List.cons.injEq, true_and] at h
      obtain ⟨rfl, hrest⟩ := escapeString_append_inj h
      rw [dumpRest_inj hrest]

theorem append_cons_inj {c : Char} {text text' post post' : Text} (htext : c ∉ text)
    (htext' : c ∉ text') (h : text ++ c :: post = text' ++ c :: post') :
    text = text' ∧ post = post' := by
  induction text generalizing text' with
  | nil =>
    cases text' with
    | nil => exact ⟨rfl, (List.cons.inj h).2⟩
    | cons c' text' => exact absurd (List.cons.inj h).1 fun heq => htext' (heq ▸ List.mem_cons_self)
  | cons d text ih =>
    cases text' with
    | nil => exact absurd (List.cons.inj h).1.symm fun heq => htext (heq ▸ List.mem_cons_self)
    | cons d' text' =>
      obtain ⟨rfl, hrest⟩ := List.cons.inj h
      obtain ⟨rfl, hpost⟩ := ih (fun hmem => htext (List.mem_cons_of_mem _ hmem))
        (fun hmem => htext' (List.mem_cons_of_mem _ hmem)) hrest
      exact ⟨rfl, hpost⟩

/-- A table name without quotes, backticks and newlines. -/
def NameOk : Prop :=
  '\'' ∉ tableName.toList ∧ '`' ∉ tableName.toList ∧ '\n' ∉ tableName.toList

instance (tableName : String) : Decidable (NameOk tableName) :=
  inferInstanceAs (Decidable (_ ∧ _ ∧ _))

theorem createDumpString_inj {tableName tableName' : String} {row row' : Row}
    (hname : NameOk tableName) (hname' : NameOk tableName')
    (h : createDumpString tableName row = createDumpString tableName' row') :
    tableName = tableName' ∧ row.texts = row'.texts := by
  unfold createDumpString dumpLine insertInto at h
  simp only [List.append_assoc, List.cons_append] at h
  have hafter := List.append_cancel_left h
  obtain ⟨hsame, hvalues⟩ := append_cons_inj hname.2.1 hname'.2.1 hafter
  exact ⟨String.toList_injective hsame, dumpValues_inj (List.append_cancel_left hvalues)⟩

/-- A newline or the character 0: neither is in an escaped text. -/
def EndsLine (c : Char) : Prop := c = '\n' ∨ c = '\x00'

theorem notMem_escapeString {c : Char} (hc : EndsLine c) (text : Text) : c ∉ escapeString text := by
  rw [escapeString, List.mem_flatMap]
  rintro ⟨d, -, hmem⟩
  cases hd : escapeLetter d with
  | none =>
    rw [escapeChar_of_none hd, List.mem_singleton] at hmem
    subst hmem
    rcases hc with rfl | rfl <;> cases hd
  | some letter =>
    rw [escapeChar_of_some hd] at hmem
    have hletter : ¬EndsLine letter := by
      unfold escapeLetter at hd
      split at hd <;> cases hd <;> rintro (heq | heq) <;> exact absurd heq (by decide)
    rcases List.mem_cons.mp hmem with heq | hmem
    · subst heq
      exact absurd hc (by rintro (heq | heq) <;> exact absurd heq (by decide))
    · exact hletter (List.mem_singleton.mp hmem ▸ hc)

theorem notMem_dumpRest {c : Char} {texts : List Text} (hc : EndsLine c)
    (h : ∀ text ∈ texts, c ∉ text) : c ∉ dumpRest texts := by
  induction texts with
  | nil => rcases hc with rfl | rfl <;> simp [dumpRest]
  | cons text texts ih =>
    have hrest := ih fun t ht => h t (List.mem_cons_of_mem _ ht)
    rcases hc with rfl | rfl <;> simp [dumpRest, h text List.mem_cons_self, hrest]

theorem notMem_createDumpString {c : Char} {tableName : String} (hc : EndsLine c)
    (hname : c ∉ tableName.toList) (row : Row) : c ∉ createDumpString tableName row := by
  have htexts : ∀ text ∈ row.texts.map escapeString, c ∉ text := by
    intro text htext
    obtain ⟨t, -, rfl⟩ := List.mem_map.mp htext
    exact notMem_escapeString hc t
  have hvalues : c ∉ dumpValues (row.texts.map escapeString) := by
    generalize row.texts.map escapeString = texts at htexts
    cases texts with
    | nil => rcases hc with rfl | rfl <;> simp [dumpValues]
    | cons text texts =>
      have hrest := notMem_dumpRest hc fun t ht => htexts t (List.mem_cons_of_mem _ ht)
      rcases hc with rfl | rfl <;> simp [dumpValues, htexts text List.mem_cons_self, hrest]
  have hbefore : c ∉ "INSERT INTO `".toList := by rcases hc with rfl | rfl <;> decide
  have htick : c ≠ '`' := by rcases hc with rfl | rfl <;> decide
  have hafter : c ∉ " VALUES (".toList := by rcases hc with rfl | rfl <;> decide
  unfold createDumpString dumpLine insertInto
  simp only [List.mem_append, List.mem_cons, not_or]
  exact ⟨⟨hbefore, hname, htick, hafter⟩, hvalues⟩

theorem newline_notMem_createDumpString {tableName : String} (hname : NameOk tableName)
    (row : Row) : '\n' ∉ createDumpString tableName row :=
  notMem_createDumpString (.inl rfl) hname.2.2 row

theorem dumpText_eq_intercalate (lines : List Text) :
    dumpText lines = ['\n'].intercalate (lines ++ [[]]) := by
  induction lines with
  | nil => rfl
  | cons line lines ih =>
    obtain ⟨next, rest, hcons⟩ := List.exists_cons_of_ne_nil
      (List.append_ne_nil_of_right_ne_nil lines (List.cons_ne_nil [] []))
    rw [dumpText, List.flatMap_cons, ← dumpText, ih, List.cons_append, hcons]
    simp [List.intercalate]

theorem splitOn_dumpText {lines : List Text} (h : ∀ line ∈ lines, '\n' ∉ line) :
    (dumpText lines).splitOn '\n' = lines ++ [[]] := by
  rw [dumpText_eq_intercalate, List.splitOn_intercalate]
  · intro line hline
    rcases List.mem_append.mp hline with hline | hline
    · exact h line hline
    · rw [List.mem_singleton.mp hline]
      exact List.not_mem_nil
  · simp

end TeraCore
