import TeraCore.Commons.OrderedSet
import TeraCore.Commons.Paging
import TeraCore.Commons.Run
import TeraCore.Tools.DumpTables

/-!
# Writing a character dump

The tables are written one after the other.  Some of them give the guids by which later ones are
looked up: the inventory and the items of mails give item guids, the pets give pet numbers, the
mails give mail ids.  A long list of guids is cut into several queries.

## Main results

* `dumpTable_eq_ok_iff`: what is written of a table
* `getDump_eq_ok_iff`: **what is in a dump**
-/

namespace TeraCore

open Commons

/-! ## Queries -/

/-- The condition of a query. -/
inductive WhereClause where
  | equals (field : String) (guid : ℕ)
  | isIn (field : String) (guids : List ℕ)

/-- The beginning of a condition, up to the last guid. -/
def writtenWhere (field : String) (guids : List ℕ) : Text :=
  field.toList ++ " IN ('".toList ++ "', '".toList.intercalate (guids.map (Nat.toDigits 10))

def WhereClause.text : WhereClause → Text
  | .equals field guid => field.toList ++ " = '".toList ++ Nat.toDigits 10 guid ++ ['\'']
  | .isIn field guids => writtenWhere field guids ++ "')".toList

def maxQueryLen : ℕ := 32 * 1024

/-- Is the condition near to the longest query? -/
def whereFull (field : String) (guids : List ℕ) : Bool :=
  maxQueryLen - 50 < (writtenWhere field guids).length

/-- **The next condition**, and the guids that are left. -/
def generateWhereStr (field : String) (guids : List ℕ) : WhereClause × List ℕ :=
  ((.isIn field (takePage (whereFull field) [] guids).1),
    (takePage (whereFull field) [] guids).2)

def queryText (table : String) (clause : WhereClause) : Text :=
  "SELECT * FROM ".toList ++ table.toList ++ " WHERE ".toList ++ clause.text

/-- Why there is no dump: the character is deleted, or the server stops at a query that does not
parse. -/
inductive DumpFailure where
  | deleted
  | aborted
  deriving DecidableEq

namespace CharacterDatabase

variable (db : CharacterDatabase)

def select (table : String) : WhereClause → List Row
  | .equals field guid => (db.rows table).filter fun row => idOf table field row = guid
  | .isIn field guids => lookup (db.rows table) (idOf table field) guids

/-- **A query**.  Its text is cut off when it does not fit; what is left has an open parenthesis. -/
def pquery (table : String) (clause : WhereClause) : Except DumpFailure (List Row) :=
  if (queryText table clause).length < maxQueryLen then .ok (db.select table clause)
  else .error .aborted

end CharacterDatabase

/-! ## The writer -/

/-- The guids that have been collected. -/
structure PlayerDumpWriter where
  pets : OrderedSet ℕ := OrderedSet.empty
  mails : OrderedSet ℕ := OrderedSet.empty
  items : OrderedSet ℕ := OrderedSet.empty

/-- The column by which the rows of a table are looked up. -/
def DumpTableType.fieldname : DumpTableType → String
  | item => "guid"
  | itemGift => "item_guid"
  | pet => "owner"
  | petTable => "guid"
  | mail => "receiver"
  | mailItem => "mail_id"
  | character | charTable | eqsetTable | inventory => "guid"

def storeGUID (row : Row) (field : ℕ) (guids : OrderedSet ℕ) : OrderedSet ℕ :=
  let guid := (row.field field).getUInt32
  if guid ≠ 0 then guids.insert guid else guids

namespace PlayerDumpWriter

variable (db : CharacterDatabase)

/-- The guids by which the rows of a table are looked up, if it is not the character's. -/
def guids (writer : PlayerDumpWriter) : DumpTableType → Option (OrderedSet ℕ)
  | .item | .itemGift => some writer.items
  | .petTable => some writer.pets
  | .mailItem => some writer.mails
  | .character | .charTable | .eqsetTable | .inventory | .mail | .pet => none

/-- The guids of a row are collected. -/
def collect (type : DumpTableType) (writer : PlayerDumpWriter) (row : Row) : PlayerDumpWriter :=
  match type with
  | .inventory => { writer with items := storeGUID row 3 writer.items }
  | .pet => { writer with pets := storeGUID row 0 writer.pets }
  | .mail => { writer with mails := storeGUID row 0 writer.mails }
  | .mailItem => { writer with items := storeGUID row 1 writer.items }
  | .character | .charTable | .eqsetTable | .item | .itemGift | .petTable => writer

variable (table : DumpTable)

/-- A row is written, unless it says that the character is deleted. -/
def dumpRow (s : PlayerDumpWriter × Text) (row : Row) :
    Except DumpFailure (PlayerDumpWriter × Text) :=
  if table.type = .character ∧ (row.field 68).getUInt32 ≠ 0 then .error .deleted
  else .ok (s.1.collect table.type row, s.2 ++ createDumpString table.name row ++ ['\n'])

/-- The queries of a table, one after the other; one without a row is the last. -/
def dumpQueries (table : DumpTable) :
    List WhereClause → PlayerDumpWriter × Text → Except DumpFailure (PlayerDumpWriter × Text)
  | [], s => .ok s
  | clause :: clauses, s =>
    match db.pquery table.name clause with
    | .error failure => .error failure
    | .ok [] => .ok s
    | .ok (row :: rows) =>
      match (row :: rows).foldlM (dumpRow table) s with
      | .error failure => .error failure
      | .ok s => dumpQueries table clauses s

/-- The conditions of the queries for a list of guids, at most as many as the number says. -/
def whereClauses (field : String) : ℕ → List ℕ → List WhereClause
  | 0, _ => []
  | _ + 1, [] => []
  | n + 1, guid :: guids =>
    (generateWhereStr field (guid :: guids)).1 ::
      whereClauses field n (generateWhereStr field (guid :: guids)).2

/-- **The rows of a table are written.** -/
def dumpTable (guid : ℕ) (s : PlayerDumpWriter × Text) (table : DumpTable) :
    Except DumpFailure (PlayerDumpWriter × Text) :=
  match s.1.guids table.type with
  | none => dumpQueries db table [.equals table.type.fieldname guid] s
  | some guids =>
    dumpQueries db table (whereClauses table.type.fieldname guids.size guids.elems) s

/-- The notes at the beginning of a dump. -/
def dumpNotes : List Text :=
  [("IMPORTANT NOTE: THIS DUMPFILE IS MADE FOR USE WITH THE 'PDUMP' COMMAND ONLY - " ++
      "EITHER THROUGH INGAME CHAT OR ON CONSOLE!").toList,
    ("IMPORTANT NOTE: DO NOT apply it directly - it will irreversibly DAMAGE and CORRUPT your " ++
      "database! You have been warned!").toList, []]

/-- **The dump of a character.** -/
def getDump (guid : ℕ) : Except DumpFailure Text :=
  (dumpTables.foldlM (dumpTable db guid) ({}, dumpText dumpNotes)).map Prod.snd

/-! ## What is written of a table -/

/-- Does the query for a page of guids fit? -/
def queryFits (guids : List ℕ) : Bool :=
  (queryText table.name (.isIn table.type.fieldname guids)).length < maxQueryLen

def askedPages (guids : OrderedSet ℕ) : List (List ℕ) :=
  asked (db.rows table.name) (CharacterDatabase.idOf table.name table.type.fieldname)
    (cutPages (whereFull table.type.fieldname) guids.size guids.elems)

/-- Do all queries of a table fit? -/
def Fits (guids : Option (OrderedSet ℕ)) : Prop :=
  ∀ found ∈ guids, ∀ page ∈ askedPages db table found, queryFits table page = true

instance (table : DumpTable) (guids : Option (OrderedSet ℕ)) : Decidable (Fits db table guids) :=
  decidable_of_iff (∀ found ∈ guids.toList, ∀ page ∈ askedPages db table found,
    queryFits table page = true) (by simp [Fits])

/-- The rows that are written of a table, looked up by guids or by the character's. -/
def rowsBy (guid : ℕ) (table : DumpTable) : Option (OrderedSet ℕ) → List Row
  | none => db.select table.name (.equals table.type.fieldname guid)
  | some guids => (askedPages db table guids).flatMap
      (lookup (db.rows table.name) (CharacterDatabase.idOf table.name table.type.fieldname))

def tableLines (rows : List Row) : List Text :=
  rows.map (createDumpString table.name)

variable {db} {guid : ℕ} {table : DumpTable} {s s' : PlayerDumpWriter × Text}

theorem whereClauses_eq (field : String) (n : ℕ) (guids : List ℕ) :
    whereClauses field n guids = (cutPages (whereFull field) n guids).map (.isIn field) := by
  induction n generalizing guids with
  | zero => rfl
  | succ n ih =>
    cases guids with
    | nil => rfl
    | cons guid guids => rw [whereClauses, cutPages, List.map_cons, ih]; rfl

theorem dumpText_append (lines lines' : List Text) :
    dumpText (lines ++ lines') = dumpText lines ++ dumpText lines' := List.flatMap_append

theorem foldlM_dumpRow {rows : List Row}
    (h : ∀ row ∈ rows, table.type = .character → (row.field 68).getUInt32 = 0) :
    rows.foldlM (dumpRow table) s =
      .ok (rows.foldl (collect table.type) s.1, s.2 ++ dumpText (tableLines table rows)) := by
  induction rows generalizing s with
  | nil => simp [tableLines, dumpText, pure, Except.pure]
  | cons row rows ih =>
    have hrow : ¬(table.type = .character ∧ (row.field 68).getUInt32 ≠ 0) :=
      fun hdeleted => hdeleted.2 (h row List.mem_cons_self hdeleted.1)
    rw [List.foldlM_cons, dumpRow, if_neg hrow]
    exact (ih fun r hr => h r (List.mem_cons_of_mem _ hr)).trans
      (by simp [tableLines, dumpText, List.append_assoc])

theorem dumpQueries_isIn_eq_ok_iff (htype : table.type ≠ .character) (pages : List (List ℕ)) :
    dumpQueries db table (pages.map (.isIn table.type.fieldname)) s = .ok s' ↔
      ∃ rows, readPages (db.rows table.name)
          (CharacterDatabase.idOf table.name table.type.fieldname) (queryFits table) pages =
            some rows ∧
        s' = (rows.foldl (collect table.type) s.1, s.2 ++ dumpText (tableLines table rows)) := by
  induction pages generalizing s with
  | nil => simp [dumpQueries, readPages, tableLines, dumpText, eq_comm]
  | cons page pages ih =>
    rw [List.map_cons, dumpQueries, CharacterDatabase.pquery, readPages]
    by_cases hfits : queryFits table page = true
    · have hshort : (queryText table.name (.isIn table.type.fieldname page)).length < maxQueryLen :=
        of_decide_eq_true hfits
      rw [if_pos hshort, if_pos hfits]
      simp only [CharacterDatabase.select]
      generalize hfound : lookup (db.rows table.name)
        (CharacterDatabase.idOf table.name table.type.fieldname) page = found
      cases found with
      | nil =>
        rw [if_pos (lookup_eq_nil_iff.mp hfound)]
        simp [tableLines, dumpText, eq_comm]
      | cons row found =>
        have hblank : ¬Blank (db.rows table.name)
            (CharacterDatabase.idOf table.name table.type.fieldname) page := fun hblank => by
          rw [lookup_eq_nil_iff.mpr hblank] at hfound
          cases hfound
        rw [if_neg hblank]
        simp only [foldlM_dumpRow fun _ _ hcharacter => absurd hcharacter htype, ih,
          Option.map_eq_some_iff]
        constructor
        · rintro ⟨rows, hrows, rfl⟩
          refine ⟨_, ⟨rows, hrows, rfl⟩, ?_⟩
          simp [tableLines, dumpText, List.append_assoc]
        · rintro ⟨_, ⟨rows, hrows, rfl⟩, rfl⟩
          refine ⟨rows, hrows, ?_⟩
          simp [tableLines, dumpText, List.append_assoc]
    · have hlong : ¬(queryText table.name (.isIn table.type.fieldname page)).length < maxQueryLen :=
        fun hshort => hfits (decide_eq_true hshort)
      rw [if_neg hlong, if_neg hfits]
      simp

theorem length_queryText_equals (hguid : guid < 2 ^ 32) (htable : table ∈ dumpTables) :
    (queryText table.name (.equals table.type.fieldname guid)).length < maxQueryLen := by
  have hdigits : (Nat.toDigits 10 guid).length ≤ 10 :=
    (Nat.length_toDigits_le_iff (by decide) (by decide)).mpr (by omega)
  have htables : ∀ table ∈ dumpTables, table.name.toList.length ≤ 40 ∧
      table.type.fieldname.toList.length ≤ 10 := by decide +kernel
  obtain ⟨hname, hfield⟩ := htables table htable
  have hselect : "SELECT * FROM ".toList.length = 14 := by decide +kernel
  have hwhere : " WHERE ".toList.length = 7 := by decide +kernel
  have hequals : " = '".toList.length = 4 := by decide +kernel
  have hlength : (queryText table.name (.equals table.type.fieldname guid)).length ≤ 100 := by
    unfold queryText WhereClause.text
    generalize "SELECT * FROM ".toList = select at hselect
    generalize " WHERE ".toList = wherePart at hwhere
    generalize " = '".toList = equals at hequals
    simp only [List.length_append, List.length_singleton]
    omega
  exact hlength.trans_lt (by decide)

theorem dumpTable_eq_ok_iff (hguid : guid < 2 ^ 32) (htable : table ∈ dumpTables)
    (hdeleted : ∀ row ∈ db.select "characters" (.equals "guid" guid),
      (row.field 68).getUInt32 = 0) :
    dumpTable db guid s table = .ok s' ↔ Fits db table (s.1.guids table.type) ∧
      s' = ((rowsBy db guid table (s.1.guids table.type)).foldl (collect table.type) s.1,
        s.2 ++ dumpText (tableLines table (rowsBy db guid table (s.1.guids table.type)))) := by
  unfold dumpTable
  cases hguids : s.1.guids table.type with
  | none =>
    simp only [dumpQueries, CharacterDatabase.pquery]
    rw [if_pos (length_queryText_equals hguid htable)]
    simp only [Fits, Option.mem_def, reduceCtorEq, false_implies, implies_true, true_and, rowsBy]
    generalize hfound : db.select table.name (.equals table.type.fieldname guid) = found
    cases found with
    | nil => simp [tableLines, dumpText, Prod.ext_iff, eq_comm]
    | cons row found =>
      have hkept : ∀ r ∈ row :: found, table.type = .character → (r.field 68).getUInt32 = 0 := by
        intro r hr htype
        have hname : table.name = "characters" := by
          have hall : ∀ table ∈ dumpTables, table.type = .character →
              table.name = "characters" := by
            decide
          exact hall table htable htype
        rw [hname, htype] at hfound
        exact hdeleted r (hfound ▸ hr)
      simp only [foldlM_dumpRow hkept]
      simp [eq_comm]
  | some guids =>
    have htype : table.type ≠ .character := by
      intro htype
      rw [htype] at hguids
      cases hguids
    simp only
    rw [whereClauses_eq, dumpQueries_isIn_eq_ok_iff htype]
    simp only [readPages_eq_some_iff, Fits, rowsBy, askedPages, Option.mem_def, Option.some.injEq,
      forall_eq']
    constructor
    · rintro ⟨rows, ⟨hfits, rfl⟩, rfl⟩
      exact ⟨hfits, rfl⟩
    · rintro ⟨hfits, rfl⟩
      exact ⟨_, ⟨hfits, rfl⟩, rfl⟩

/-! ## Which guids are known when -/

/-- The guids in a column of rows, with those that were known before. -/
def collected (rows : List Row) (field : ℕ) (guids : OrderedSet ℕ) : OrderedSet ℕ :=
  rows.foldl (fun guids row => storeGUID row field guids) guids

/-- The writer after the guids of all rows of a table have been collected. -/
def collectAll (type : DumpTableType) (rows : List Row) (writer : PlayerDumpWriter) :
    PlayerDumpWriter :=
  match type with
  | .inventory => { writer with items := collected rows 3 writer.items }
  | .pet => { writer with pets := collected rows 0 writer.pets }
  | .mail => { writer with mails := collected rows 0 writer.mails }
  | .mailItem => { writer with items := collected rows 1 writer.items }
  | .character | .charTable | .eqsetTable | .item | .itemGift | .petTable => writer

section Known

variable (db) (guid)

def inventoryItems : OrderedSet ℕ :=
  collected (db.select "character_inventory" (.equals "guid" guid)) 3 OrderedSet.empty

def petNumbers : OrderedSet ℕ :=
  collected (db.select "character_pet_declinedname" (.equals "owner" guid)) 0
    (collected (db.select "character_pet" (.equals "owner" guid)) 0 OrderedSet.empty)

def mailIds : OrderedSet ℕ :=
  collected (db.select "mail" (.equals "receiver" guid)) 0 OrderedSet.empty

/-- **The guids by which the rows of a table are looked up.**  No item is known when the gifts are
written, and those of mails are not when the items are. -/
def guidsAt : DumpTableType → Option (OrderedSet ℕ)
  | .item => some (inventoryItems db guid)
  | .itemGift => some OrderedSet.empty
  | .petTable => some (petNumbers db guid)
  | .mailItem => some (mailIds db guid)
  | .character | .charTable | .eqsetTable | .inventory | .mail | .pet => none

def dumpedRows (table : DumpTable) : List Row := rowsBy db guid table (guidsAt db guid table.type)

/-- The text that is written, if every query fits. -/
def writtenDump : Text :=
  dumpText (dumpNotes ++
    dumpTables.flatMap fun table => tableLines table (dumpedRows db guid table))

def after (writer : PlayerDumpWriter) (table : DumpTable) : PlayerDumpWriter :=
  (rowsBy db guid table (writer.guids table.type)).foldl (collect table.type) writer

def Knows : PlayerDumpWriter → List DumpTable → Prop
  | _, [] => True
  | writer, table :: tables =>
    writer.guids table.type = guidsAt db guid table.type ∧ Knows (after db guid writer table) tables

end Known

theorem foldl_collect (type : DumpTableType) (rows : List Row) (writer : PlayerDumpWriter) :
    rows.foldl (collect type) writer = collectAll type rows writer := by
  induction rows generalizing writer with
  | nil => cases type <;> rfl
  | cons row rows ih =>
    rw [List.foldl_cons, ih]
    cases type <;> rfl

theorem knows_dumpTables : Knows db guid {} dumpTables := by
  simp only [dumpTables, Knows, after, foldl_collect, collectAll, guids, guidsAt, rowsBy,
    inventoryItems, petNumbers, mailIds, DumpTableType.fieldname, and_self]

section

variable (hguid : guid < 2 ^ 32)
  (hdeleted : ∀ row ∈ db.select "characters" (.equals "guid" guid), (row.field 68).getUInt32 = 0)
include hguid hdeleted

theorem foldlM_dumpTable_eq_ok_iff {tables : List DumpTable}
    (htables : ∀ table ∈ tables, table ∈ dumpTables) (hknows : Knows db guid s.1 tables) :
    tables.foldlM (dumpTable db guid) s = .ok s' ↔
      (∀ table ∈ tables, Fits db table (guidsAt db guid table.type)) ∧
        s' = (tables.foldl (after db guid) s.1, s.2 ++ dumpText
          (tables.flatMap fun table => tableLines table (dumpedRows db guid table))) := by
  induction tables generalizing s with
  | nil => simp [dumpText, pure, Except.pure, Prod.ext_iff, eq_comm]
  | cons table tables ih =>
    obtain ⟨hguids, hknows⟩ := hknows
    have htable := htables table List.mem_cons_self
    have hrest := fun t ht => htables t (List.mem_cons_of_mem _ ht)
    have hstep := fun s'' => @dumpTable_eq_ok_iff db guid table s s'' hguid htable hdeleted
    rw [hguids] at hstep
    rw [List.foldlM_cons, List.forall_mem_cons, List.flatMap_cons, dumpText_append, List.foldl_cons]
    cases hresult : dumpTable db guid s table with
    | error failure =>
      have hnot : ¬Fits db table (guidsAt db guid table.type) := fun hfits => by
        rw [(hstep _).mpr ⟨hfits, rfl⟩] at hresult
        cases hresult
      simp [hnot, bind, Except.bind]
    | ok s'' =>
      obtain ⟨hfits, rfl⟩ := (hstep s'').mp hresult
      have hafter : (rowsBy db guid table (guidsAt db guid table.type)).foldl (collect table.type)
          s.1 = after db guid s.1 table := by
        rw [after, hguids]
      rw [hafter]
      simp only [bind, Except.bind]
      rw [ih hrest hknows]
      simp only [hfits, true_and, dumpedRows, List.append_assoc]

theorem getDump_eq_ok_iff {dump : Text} :
    getDump db guid = .ok dump ↔
      (∀ table ∈ dumpTables, Fits db table (guidsAt db guid table.type)) ∧
        dump = writtenDump db guid := by
  have hfold := fun s' => @foldlM_dumpTable_eq_ok_iff db guid ({}, dumpText dumpNotes) s' hguid
    hdeleted dumpTables (fun _ htable => htable) knows_dumpTables
  rw [getDump, writtenDump, dumpText_append]
  generalize dumpText dumpNotes = notes at hfold
  constructor
  · intro h
    cases hresult : dumpTables.foldlM (dumpTable db guid) ({}, notes) with
    | error failure => rw [hresult] at h; cases h
    | ok s' =>
      rw [hresult] at h
      obtain ⟨hfits, rfl⟩ := (hfold s').mp hresult
      exact ⟨hfits, (Except.ok.inj h).symm⟩
  · rintro ⟨hfits, rfl⟩
    exact congrArg (Except.map Prod.snd) ((hfold _).mpr ⟨hfits, rfl⟩)

end

end PlayerDumpWriter

end TeraCore
