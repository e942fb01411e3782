import TeraCore.Commons.Loop
import TeraCore.Commons.PatternSearch
import TeraCore.Tools.DumpTables

/-!
# The values of a dumped line

A restore reads and changes the values of a line by their number.  It takes the end of a value to be
a quote that no backslash stands before, and goes from the end of a value to the beginning of the
next one by four characters.

When a quote is escaped, or the value ends with a backslash, the reader does not look behind that
place.  At the first value it looks at the same place again, without end; at another one it goes on
four characters later, as if the next value began there.

## Main definitions

* `findnth`, `getnth`, `changenth`
* `LineRight`: what the line of a row says about its values

## Main results

* `plain_of_getnth`: what is read has no quotes, and no backslash at its end
* `lineRight_iff`: when the values of a line are read and changed as they should be
-/

namespace TeraCore

open Commons

def endsEscaped (str : Text) (e : ℕ) : Bool := str.getD (e - 1) '\x00' = '\\'

/-- A turn of the first loop of `findnth`; the place to search from stays the same. -/
def firstTurn (str : Text) (s : ℕ) : Turn ℕ (Option (ℕ × ℕ)) :=
  match findFrom str ['\''] s with
  | none => .leave none
  | some e => if endsEscaped str e then .goOn s else .leave (some (s, e))

/-- A turn of the second loop of `findnth`. -/
def nextTurn (str : Text) (e : ℕ) : Turn ℕ (Option (ℕ × ℕ)) :=
  let s := e + 4
  match findFrom str ['\''] s with
  | none => .leave none
  | some e => if endsEscaped str e then .goOn e else .leave (some (s, e))

variable (turns : ℕ) (str : Text)

/-- The place of the value that comes so many values later. -/
def laterValue (turns : ℕ) (str : Text) : ℕ → ℕ × ℕ → Option (Option (ℕ × ℕ))
  | 0, p => some (some p)
  | number + 1, p =>
    match loop (nextTurn str) turns p.2 with
    | none => none
    | some none => some none
    | some (some p) => laterValue turns str number p

/-- The place to search from, when `npos` is not looked for in vain: `npos + 9` is 8. -/
def firstValue (str : Text) : ℕ :=
  match findFrom str "VALUES ('".toList 0 with
  | some pos => pos + 9
  | none => 8

/-- **`findnth`**, if its loops do not take more turns: where the value begins and ends, if it is
there. -/
def findnth (n : ℕ) : Option (Option (ℕ × ℕ)) :=
  match loop (firstTurn str) turns (firstValue str) with
  | none => none
  | some none => some none
  | some (some p) => laterValue turns str (n - 1) p

/-- `str.substr(s, e-s)` -/
def valueAt (str : Text) (p : ℕ × ℕ) : Text := (str.drop p.1).take (p.2 - p.1)

def getnth (n : ℕ) : Option Text :=
  (findnth turns str n).map fun
    | none => []
    | some p => valueAt str p

/-- **`changenth`**: whether the value is there, and the line. -/
def changenth (n : ℕ) (value : Text) (insert nonzero : Bool) : Option (Bool × Text) :=
  (findnth turns str n).map fun
    | none => (false, str)
    | some p =>
      if nonzero ∧ valueAt str p = ['0'] then (true, str)
      else if insert then (true, str.take p.1 ++ value ++ str.drop p.1)
      else (true, str.take p.1 ++ value ++ str.drop p.2)

/-- **The line of a row says what its values are.** -/
structure LineRight (tableName : String) (row : Row) : Prop where
  value : ∀ n text, row.texts[n]? = some text →
    Returns (getnth · (createDumpString tableName row) (n + 1)) (escapeString text)
  behind : ∀ n > row.length, Returns (getnth · (createDumpString tableName row) n) []
  change : ∀ n < row.length, ∀ text,
    Returns (changenth · (createDumpString tableName row) (n + 1) (escapeString text) false false)
      (true, createDumpString tableName (row.set n (some text)))

/-! ## What is read -/

/-- Values that the reader can tell the end of. -/
def PlainEnd (text : Text) : Prop := '\'' ∉ text ∧ text.getLast? ≠ some '\\'

instance (text : Text) : Decidable (PlainEnd text) := inferInstanceAs (Decidable (_ ∧ _))

/-- The value begins at the one place and ends at the first quote behind it. -/
def IsValue (str : Text) (p : ℕ × ℕ) : Prop :=
  findFrom str ['\''] p.1 = some p.2 ∧ endsEscaped str p.2 = false

variable {str} {turns} {n : ℕ} {p : ℕ × ℕ} {text : Text}

theorem isValue_of_firstTurn {s : ℕ} {r : Option (ℕ × ℕ)} (h : firstTurn str s = .leave r) :
    ∀ p ∈ r, IsValue str p := by
  unfold firstTurn at h
  split at h
  · cases h
    simp
  · rename_i e he
    split_ifs at h with hends
    cases h
    rintro p ⟨⟩
    exact ⟨he, Bool.eq_false_iff.mpr hends⟩

theorem isValue_of_nextTurn {s : ℕ} {r : Option (ℕ × ℕ)} (h : nextTurn str s = .leave r) :
    ∀ p ∈ r, IsValue str p := by
  unfold nextTurn at h
  dsimp only at h
  split at h
  · cases h
    simp
  · rename_i e he
    split_ifs at h with hends
    cases h
    rintro p ⟨⟩
    exact ⟨he, Bool.eq_false_iff.mpr hends⟩

theorem isValue_of_laterValue (hp : IsValue str p) {r : Option (ℕ × ℕ)}
    (h : laterValue turns str n p = some r) : ∀ p ∈ r, IsValue str p := by
  induction n generalizing p with
  | zero =>
    cases h
    rintro p' ⟨⟩
    exact hp
  | succ n ih =>
    rw [laterValue] at h
    split at h
    · cases h
    · cases h
      simp
    · rename_i p' hloop
      have hvalue := loop_result (fun r => ∀ p ∈ r, IsValue str p)
        (fun _ _ => isValue_of_nextTurn) hloop
      exact ih (hvalue p' rfl) h

theorem isValue_of_findnth {r : Option (ℕ × ℕ)} (h : findnth turns str n = some r) :
    ∀ p ∈ r, IsValue str p := by
  unfold findnth at h
  split at h
  · cases h
  · cases h
    simp
  · rename_i p hloop
    have hvalue := loop_result (fun r => ∀ p ∈ r, IsValue str p)
      (fun _ _ => isValue_of_firstTurn) hloop
    exact isValue_of_laterValue (hvalue p rfl) h

theorem IsValue.plainEnd (h : IsValue str p) : PlainEnd (valueAt str p) := by
  refine ⟨notMem_of_findFrom h.1, fun hlast => ?_⟩
  have hends := h.2
  obtain ⟨⟨hle, hprefix⟩, hlength, -⟩ := findFrom_eq_some_iff.mp h.1
  have hne : valueAt str p ≠ [] := by
    intro hnil
    rw [hnil] at hlast
    cases hlast
  have hpos : p.1 < p.2 := by
    by_contra hnot
    exact hne (by rw [valueAt, Nat.sub_eq_zero_of_le (not_lt.mp hnot), List.take_zero])
  have hlen : (valueAt str p).length = p.2 - p.1 := by
    rw [valueAt, List.length_take, List.length_drop]
    omega
  rw [List.getLast?_eq_getElem?, hlen, valueAt, List.getElem?_take_of_lt (by omega),
    List.getElem?_drop] at hlast
  have hplace : p.1 + (p.2 - p.1 - 1) = p.2 - 1 := by omega
  rw [hplace] at hlast
  simp [endsEscaped, List.getD_eq_getElem?_getD, hlast] at hends

/-- **What is read has a plain end**, whatever stands in the line. -/
theorem plain_of_getnth (h : getnth turns str n = some text) : PlainEnd text := by
  obtain ⟨r, hfind, rfl⟩ := Option.map_eq_some_iff.mp h
  cases r with
  | none => exact ⟨List.not_mem_nil, by simp⟩
  | some p => exact (isValue_of_findnth hfind p rfl).plainEnd

/-! ## Escaped values -/

theorem quote_mem_escapeChar {c : Char} : '\'' ∈ escapeChar c ↔ c = '\'' := by
  cases hc : escapeLetter c with
  | none => simp [escapeChar_of_none hc, eq_comm]
  | some letter =>
    have hquote : escapeLetter '\'' = some '\'' := rfl
    rw [escapeChar_of_some hc]
    constructor
    · intro hmem
      obtain rfl : letter = '\'' := by simpa [eq_comm] using hmem
      exact escapeLetter_injective hc hquote
    · rintro rfl
      cases hc.symm.trans hquote
      simp

theorem getLast?_escapeChar {c : Char} : (escapeChar c).getLast? = some '\\' ↔ c = '\\' := by
  cases hc : escapeLetter c with
  | none => simp [escapeChar_of_none hc]
  | some letter =>
    have hbackslash : escapeLetter '\\' = some '\\' := rfl
    rw [escapeChar_of_some hc]
    constructor
    · intro hlast
      obtain rfl : letter = '\\' := by simpa using hlast
      exact escapeLetter_injective hc hbackslash
    · rintro rfl
      cases hc.symm.trans hbackslash
      rfl

theorem escapeChar_ne_nil (c : Char) : escapeChar c ≠ [] := by
  cases hc : escapeLetter c with
  | none => simp [escapeChar_of_none hc]
  | some letter => simp [escapeChar_of_some hc]

theorem plainEnd_escapeString : PlainEnd (escapeString text) ↔ PlainEnd text := by
  have hquote : '\'' ∈ escapeString text ↔ '\'' ∈ text := by
    simp [escapeString, quote_mem_escapeChar]
  have hlast : (escapeString text).getLast? = some '\\' ↔ text.getLast? = some '\\' := by
    induction text using List.reverseRecOn with
    | nil => rfl
    | append_singleton text c _ =>
      have hconcat : escapeString (text ++ [c]) = escapeString text ++ escapeChar c := by
        simp [escapeString]
      rw [hconcat, List.getLast?_append_of_ne_nil _ (escapeChar_ne_nil c), getLast?_escapeChar]
      simp
  rw [PlainEnd, PlainEnd, hquote, ne_eq, hlast]

/-! ## Lines of values with plain ends -/

variable (tableName : String) (front : List Text)

/-- The line up to the value that comes after these. -/
def lineBefore : Text :=
  insertInto tableName ++ '\'' :: front.flatMap fun text => text ++ ['\'', ',', ' ', '\'']

theorem dumpRest_append (front back : List Text) (text : Text) :
    dumpRest (front ++ text :: back) = [',', ' ', '\''] ++
      (front.flatMap fun text => text ++ ['\'', ',', ' ', '\'']) ++ text ++
        '\'' :: dumpRest back := by
  induction front with
  | nil => simp [dumpRest]
  | cons _ _ ih => simp [dumpRest, ih]

theorem dumpLine_append (tableName : String) (front back : List Text) (text : Text) :
    dumpLine tableName (front ++ text :: back) =
      lineBefore tableName front ++ text ++ '\'' :: dumpRest back := by
  cases front with
  | nil => simp [dumpLine, dumpValues, lineBefore]
  | cons _ _ => simp [dumpLine, dumpValues, lineBefore, dumpRest_append]

theorem lineBefore_concat (text : Text) :
    lineBefore tableName (front ++ [text]) =
      lineBefore tableName front ++ text ++ ['\'', ',', ' ', '\''] := by
  simp [lineBefore]

theorem getLast?_lineBefore : (lineBefore tableName front).getLast? = some '\'' := by
  induction front using List.reverseRecOn with
  | nil => simp [lineBefore]
  | append_singleton front text _ => simp [lineBefore_concat]

theorem isValue_of_plainEnd {before rest : Text} (hbefore : before.getLast? = some '\'')
    (h : PlainEnd text) :
    IsValue (before ++ text ++ '\'' :: rest) (before.length, before.length + text.length) := by
  refine ⟨findFrom_singleton h.1, ?_⟩
  have hlast : (before ++ text)[(before ++ text).length - 1]? ≠ some '\\' := by
    rw [← List.getLast?_eq_getElem?]
    cases text using List.reverseRecOn with
    | nil =>
      rw [List.append_nil, hbefore]
      decide
    | append_singleton text c =>
      rw [← List.append_assoc, List.getLast?_concat]
      simpa using h.2
  have hlt : (before ++ text).length - 1 < (before ++ text).length := by
    have hne : before ≠ [] := by
      rintro rfl
      cases hbefore
    have := List.length_pos_of_ne_nil hne
    rw [List.length_append]
    omega
  rw [endsEscaped, decide_eq_false_iff_not, ← List.length_append, List.getD_eq_getElem?_getD,
    List.getElem?_append_left hlt]
  intro heq
  rw [List.getElem?_eq_getElem hlt] at hlast heq
  exact hlast (congrArg some heq)

section Lines

variable (texts : List Text)

/-- Where the value with this number, from 0 on, begins and ends. -/
def placeOf (n : ℕ) : ℕ × ℕ :=
  let begins := (lineBefore tableName (texts.take n)).length
  (begins, begins + (texts.getD n []).length)

variable {tableName texts}

theorem dumpLine_eq (h : n < texts.length) : dumpLine tableName texts =
    lineBefore tableName (texts.take n) ++ texts.getD n [] ++
      '\'' :: dumpRest (texts.drop (n + 1)) := by
  have hget : texts.getD n [] = texts[n] := by simp [List.getD_eq_getElem?_getD, h]
  rw [hget, ← dumpLine_append, ← List.drop_eq_getElem_cons h, List.take_append_drop]

theorem isValue_placeOf (h : n < texts.length) (hplain : ∀ text ∈ texts, PlainEnd text) :
    IsValue (dumpLine tableName texts) (placeOf tableName texts n) := by
  have hmem : texts.getD n [] ∈ texts := by simp [List.getD_eq_getElem?_getD, h]
  rw [dumpLine_eq h]
  exact isValue_of_plainEnd (getLast?_lineBefore _ _) (hplain _ hmem)

theorem placeOf_succ (h : n < texts.length) :
    (placeOf tableName texts (n + 1)).1 = (placeOf tableName texts n).2 + 4 := by
  have hget : texts.getD n [] = texts[n] := by simp [List.getD_eq_getElem?_getD, h]
  simp only [placeOf]
  rw [List.take_succ_eq_append_getElem h, lineBefore_concat, hget]
  simp only [List.length_append, List.length_cons, List.length_nil]

theorem nextTurn_placeOf (h : n + 1 < texts.length) (hplain : ∀ text ∈ texts, PlainEnd text) :
    nextTurn (dumpLine tableName texts) (placeOf tableName texts n).2 =
      .leave (some (placeOf tableName texts (n + 1))) := by
  obtain ⟨hfind, hends⟩ : IsValue (dumpLine tableName texts) (placeOf tableName texts (n + 1)) :=
    isValue_placeOf h hplain
  unfold nextTurn
  dsimp only
  rw [← placeOf_succ (Nat.lt_of_succ_lt h), hfind]
  dsimp only
  rw [if_neg (Bool.eq_false_iff.mp hends)]

theorem nextTurn_last (h : n + 1 = texts.length) :
    nextTurn (dumpLine tableName texts) (placeOf tableName texts n).2 = .leave none := by
  have hlength : (dumpLine tableName texts).length < (placeOf tableName texts n).2 + 4 := by
    have hlt : n < texts.length := by omega
    rw [dumpLine_eq hlt, List.drop_eq_nil_of_le h.ge]
    simp only [placeOf, dumpRest, List.length_append, List.length_cons, List.length_nil]
    omega
  unfold nextTurn
  dsimp only
  rw [findFrom_eq_none_of_lt hlength]

theorem laterValue_placeOf (hturns : 1 ≤ turns) (hplain : ∀ text ∈ texts, PlainEnd text)
    (number : ℕ) (h : n < texts.length) :
    laterValue turns (dumpLine tableName texts) number (placeOf tableName texts n) =
      some (if n + number < texts.length then some (placeOf tableName texts (n + number))
        else none) := by
  induction number generalizing n with
  | zero => rw [laterValue, Nat.add_zero, if_pos h]
  | succ number ih =>
    rw [laterValue]
    rcases Nat.lt_or_eq_of_le (Nat.succ_le_of_lt h) with hnext | hlast
    · rw [loop_of_leave (nextTurn_placeOf hnext hplain) hturns]
      dsimp only
      rw [ih hnext, Nat.succ_eq_add_one, Nat.add_assoc, Nat.add_comm 1]
    · rw [loop_of_leave (nextTurn_last hlast) hturns, if_neg (by omega)]

theorem quote_notMem_insertInto (hname : NameOk tableName) : '\'' ∉ insertInto tableName := by
  have hbefore : '\'' ∉ "INSERT INTO `".toList := by decide
  have hafter : '\'' ∉ " VALUES (".toList := by decide
  unfold insertInto
  simp only [List.mem_append, List.mem_cons, not_or]
  exact ⟨hbefore, hname.1, by decide, hafter⟩

theorem insertInto_eq (tableName : String) :
    ∃ front, insertInto tableName = front ++ "VALUES (".toList := by
  have hvalues : " VALUES (".toList = ' ' :: "VALUES (".toList := by decide +kernel
  refine ⟨"INSERT INTO `".toList ++ (tableName.toList ++ ['`', ' ']), ?_⟩
  unfold insertInto
  generalize " VALUES (".toList = values at hvalues ⊢
  generalize "INSERT INTO `".toList = insert
  rw [hvalues]
  simp only [List.append_assoc, List.cons_append, List.nil_append]

theorem firstValue_dumpLine (hname : NameOk tableName) (h : texts ≠ []) :
    firstValue (dumpLine tableName texts) = (placeOf tableName texts 0).1 := by
  have hpattern : "VALUES ('".toList = "VALUES (".toList ++ ['\''] := by decide +kernel
  have hlength : "VALUES (".toList.length = 8 := by decide +kernel
  have hquote := quote_notMem_insertInto hname
  obtain ⟨text, rest, rfl⟩ := List.exists_cons_of_ne_nil h
  have hplace : (placeOf tableName (text :: rest) 0).1 = (insertInto tableName).length + 1 := by
    simp [placeOf, lineBefore]
  obtain ⟨front, hfront⟩ := insertInto_eq tableName
  rw [hfront] at hquote
  rw [hplace, firstValue, dumpLine, dumpValues, List.cons_append, hpattern, hfront,
    findFrom_of_append hquote, List.length_append, hlength]

theorem findnth_dumpLine (hname : NameOk tableName) (hturns : 1 ≤ turns)
    (hplain : ∀ text ∈ texts, PlainEnd text) (n : ℕ) :
    findnth turns (dumpLine tableName texts) (n + 1) =
      some (if n < texts.length then some (placeOf tableName texts n) else none) := by
  unfold findnth
  rcases List.eq_nil_or_concat texts with rfl | hne
  · have hquote : '\'' ∉ dumpLine tableName [] := by
      simp [dumpLine, dumpValues, quote_notMem_insertInto hname]
    have hturn : ∀ s, firstTurn (dumpLine tableName []) s = .leave none := fun s => by
      rw [firstTurn, findFrom_eq_none_of_notMem List.mem_cons_self hquote]
    rw [loop_of_leave (hturn _) hturns]
    rfl
  · have hpos : 0 < texts.length := by
      obtain ⟨l, a, rfl⟩ := hne
      simp
    obtain ⟨hfind, hends⟩ : IsValue (dumpLine tableName texts) (placeOf tableName texts 0) :=
      isValue_placeOf hpos hplain
    have hturn : firstTurn (dumpLine tableName texts) (placeOf tableName texts 0).1 =
        .leave (some (placeOf tableName texts 0)) := by
      rw [firstTurn, hfind]
      dsimp only
      rw [if_neg (Bool.eq_false_iff.mp hends)]
    rw [firstValue_dumpLine hname (List.ne_nil_of_length_pos hpos), loop_of_leave hturn hturns]
    dsimp only
    rw [Nat.add_sub_cancel, laterValue_placeOf hturns hplain n hpos, Nat.zero_add]

theorem valueAt_placeOf (h : n < texts.length) :
    valueAt (dumpLine tableName texts) (placeOf tableName texts n) = texts.getD n [] := by
  rw [dumpLine_eq h, valueAt, placeOf, Nat.add_sub_cancel_left, List.append_assoc, List.drop_left,
    List.take_left]

theorem change_placeOf (h : n < texts.length) (value : Text) :
    (dumpLine tableName texts).take (placeOf tableName texts n).1 ++ value ++
      (dumpLine tableName texts).drop (placeOf tableName texts n).2 =
        dumpLine tableName (texts.set n value) := by
  rw [List.set_eq_take_append_cons_drop, if_pos h, dumpLine_append, dumpLine_eq h, placeOf]
  rw [← List.length_append, List.drop_left, List.append_assoc (lineBefore _ _), List.take_left]

end Lines

/-! ## The rows whose lines are right -/

/-- **The values of a line are read and changed as they should be** exactly when no value has a
quote in it, and none ends with a backslash. -/
theorem lineRight_iff (table : DumpTable) (htable : table ∈ dumpTables) (row : Row) :
    LineRight table.name row ↔ ∀ text ∈ row.texts, '\'' ∉ text ∧ text.getLast? ≠ some '\\' := by
  have hname := nameOk_of_mem_dumpTables table htable
  constructor
  · intro hright text htext
    obtain ⟨n, hn⟩ := List.mem_iff_getElem?.mp htext
    obtain ⟨enough, hreturns⟩ := hright.value n text hn
    exact plainEnd_escapeString.mp (plain_of_getnth (hreturns enough le_rfl))
  · intro hplain
    let texts := row.texts.map escapeString
    have hplain' : ∀ text ∈ texts, PlainEnd text := fun text htext => by
      obtain ⟨text, hmem, rfl⟩ := List.mem_map.mp htext
      exact plainEnd_escapeString.mpr (hplain text hmem)
    have hlength : texts.length = row.length := by simp [texts, Row.texts]
    have hfind : ∀ turns ≥ 1, ∀ n, findnth turns (createDumpString table.name row) (n + 1) =
        some (if n < texts.length then some (placeOf table.name texts n) else none) :=
      fun turns hturns n => findnth_dumpLine hname hturns hplain' n
    refine ⟨fun n text hn => ⟨1, fun turns hturns => ?_⟩, fun n hn => ⟨1, fun turns hturns => ?_⟩,
      fun n hn text => ⟨1, fun turns hturns => ?_⟩⟩
    · have hlt : n < texts.length := by
        rw [List.length_map]
        exact (List.getElem?_eq_some_iff.mp hn).1
      dsimp only
      rw [getnth, hfind turns hturns, if_pos hlt, Option.map_some]
      dsimp only
      rw [createDumpString, valueAt_placeOf hlt]
      simp [texts, List.getD_eq_getElem?_getD, hn]
    · obtain ⟨n, rfl⟩ : ∃ m, n = m + 1 := ⟨n - 1, by omega⟩
      dsimp only
      rw [getnth, hfind turns hturns, if_neg (by omega)]
      rfl
    · have hlt : n < texts.length := hlength ▸ hn
      dsimp only
      rw [changenth, hfind turns hturns, if_pos hlt, Option.map_some]
      dsimp only
      rw [if_neg (by simp), if_neg (by simp), createDumpString, change_placeOf hlt]
      simp [createDumpString, texts, Row.texts, SqlField.getString, List.map_set]

/-- A quote in the second value: nothing with a quote in it is ever read. -/
theorem not_lineRight_quote : ¬LineRight "characters" [some ['1'], some ['O', '\'', 'N']] := by
  intro hright
  obtain ⟨enough, hreturns⟩ := hright.value 1 ['O', '\'', 'N'] rfl
  exact absurd (plain_of_getnth (hreturns enough le_rfl)).1 (by decide)

theorem lineRight_iff_plain :
    DumpTable.mk "characters" .character ∈ dumpTables ∧
      (LineRight "characters" [some ['1'], some ['O', 'N']] ↔
        ∀ text ∈ Row.texts [some ['1'], some ['O', 'N']],
          '\'' ∉ text ∧ text.getLast? ≠ some '\\') :=
  ⟨by decide, lineRight_iff ⟨"characters", .character⟩ (by decide) _⟩

end TeraCore
