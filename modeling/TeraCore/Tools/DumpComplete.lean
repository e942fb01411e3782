import Mathlib.Data.List.TakeDrop
import TeraCore.Tools.PlayerDumpWriter

/-!
# What is missing in a dump

A dump should have the items of the inventory and of the mails with their gifts, the items of all
mails, and what belongs to the pets.  The gifts are written before any item is known, and the items
before those of the mails are.  A query without a row ends the table, also when a later query would
have rows, and one that is too long stops the server.

## Main results

* `lineCount_writtenDump`: **how often a row is in a dump**
* `getDump_complete_iff`: a dump is complete exactly if the database meets the condition
-/

namespace TeraCore

open Commons CharacterDatabase PlayerDumpWriter

/-! ## A complete dump -/

/-- How often the line of a row is in a text. -/
def lineCount (dump : Text) (table : String) (row : Row) : ℕ :=
  (dump.splitOn '\n').count (createDumpString table row)

def Dumped (dump : Text) (table : String) (row : Row) : Prop := 0 < lineCount dump table row

section Complete

variable (db : CharacterDatabase) (dump : Text)

/-- The item is in a dumped row of the inventory or of the items of mails. -/
def ItemOccurs (item : ℕ) : Prop :=
  (∃ row ∈ db.rows "character_inventory", Dumped dump "character_inventory" row ∧
    idOf "character_inventory" "item" row = item) ∨
  ∃ row ∈ db.rows "mail_items", Dumped dump "mail_items" row ∧
    idOf "mail_items" "item_guid" row = item

/-- **The dump has every row that belongs to what is dumped, once.** -/
structure DumpComplete : Prop where
  items : ∀ row ∈ db.rows "item_instance", ItemOccurs db dump (idOf "item_instance" "guid" row) →
    lineCount dump "item_instance" row = 1
  gifts : ∀ row ∈ db.rows "character_gifts",
    ItemOccurs db dump (idOf "character_gifts" "item_guid" row) →
      lineCount dump "character_gifts" row = 1
  mailItems : ∀ mail ∈ db.rows "mail", Dumped dump "mail" mail →
    ∀ row ∈ db.rows "mail_items", idOf "mail_items" "mail_id" row = idOf "mail" "id" mail →
      lineCount dump "mail_items" row = 1
  pets : ∀ pet ∈ db.rows "character_pet", Dumped dump "character_pet" pet →
    ∀ table ∈ ["pet_aura", "pet_spell", "pet_spell_cooldown"], ∀ row ∈ db.rows table,
      idOf table "guid" row = idOf "character_pet" "id" pet → lineCount dump table row = 1

end Complete

/-! ## The condition -/

section Served

variable (db : CharacterDatabase) (guid : ℕ)

def OwnsMail (mailId : ℕ) : Prop :=
  ∃ mail ∈ db.select "mail" (.equals "receiver" guid), idOf "mail" "id" mail = mailId

def OwnsPet (pet : ℕ) : Prop :=
  ∃ row ∈ db.select "character_pet" (.equals "owner" guid), idOf "character_pet" "id" row = pet

/-- An item of the inventory, or of one of the mails. -/
def OwnsItem (item : ℕ) : Prop :=
  (∃ row ∈ db.select "character_inventory" (.equals "guid" guid),
    idOf "character_inventory" "item" row = item) ∨
  ∃ row ∈ db.rows "mail_items", OwnsMail db guid (idOf "mail_items" "mail_id" row) ∧
    idOf "mail_items" "item_guid" row = item

instance (mailId : ℕ) : Decidable (OwnsMail db guid mailId) :=
  inferInstanceAs (Decidable (∃ mail ∈ _, _))

instance (pet : ℕ) : Decidable (OwnsPet db guid pet) :=
  inferInstanceAs (Decidable (∃ row ∈ _, _))

instance (item : ℕ) : Decidable (OwnsItem db guid item) :=
  inferInstanceAs (Decidable (_ ∨ ∃ row ∈ _, _ ∧ _))

/-- The wanted rows of a table are looked up by the guids, and none of them comes after a query
without a row. -/
def Served (table : DumpTable) (guids : OrderedSet ℕ) (wanted : ℕ → Prop) : Prop :=
  (∀ row ∈ db.rows table.name, wanted (idOf table.name table.type.fieldname row) →
    idOf table.name table.type.fieldname row ∈ guids) ∧
  Reaches (db.rows table.name) (idOf table.name table.type.fieldname) wanted
    (cutPages (whereFull table.type.fieldname) guids.size guids.elems)

instance (table : DumpTable) (guids : OrderedSet ℕ) (wanted : ℕ → Prop) [DecidablePred wanted] :
    Decidable (Served db table guids wanted) :=
  inferInstanceAs (Decidable ((∀ row ∈ _, _ → _) ∧ Reaches _ _ _ _))

/-- **The condition on the database**: no item of the character has a gift, the items of its mails
that have a row are in its inventory too, every query that is asked fits, and no row that is wanted
comes after a query without one. -/
structure DumpServed : Prop where
  fits : ∀ table ∈ dumpTables, Fits db table (guidsAt db guid table.type)
  gifts : ∀ row ∈ db.rows "character_gifts",
    ¬OwnsItem db guid (idOf "character_gifts" "item_guid" row)
  items : Served db ⟨"item_instance", .item⟩ (inventoryItems db guid) (OwnsItem db guid)
  mailItems : Served db ⟨"mail_items", .mailItem⟩ (mailIds db guid) (OwnsMail db guid)
  pets : ∀ table ∈ ["pet_aura", "pet_spell", "pet_spell_cooldown"],
    Served db ⟨table, .petTable⟩ (petNumbers db guid) (OwnsPet db guid)

end Served

/-! ## How often a row is in a dump -/

section Count

variable {db : CharacterDatabase} {guid : ℕ} {table : DumpTable} {row : Row}

theorem mem_rows_of_mem_select {name : String} {clause : WhereClause}
    (h : row ∈ db.select name clause) : row ∈ db.rows name := by
  cases clause with
  | equals field guid => exact (List.mem_filter.mp h).1
  | isIn field guids => exact (List.mem_filter.mp h).1

theorem mem_rows_of_mem_dumpedRows (h : row ∈ dumpedRows db guid table) :
    row ∈ db.rows table.name := by
  unfold dumpedRows at h
  cases hguids : guidsAt db guid table.type with
  | none =>
    rw [hguids, rowsBy] at h
    exact mem_rows_of_mem_select h
  | some guids =>
    rw [hguids, rowsBy] at h
    obtain ⟨page, -, hrow⟩ := List.mem_flatMap.mp h
    exact (mem_lookup.mp hrow).1

/-- A line is among the lines of its own table as often as its row is among the rows. -/
theorem count_tableLines_self {rows : List Row} (htable : table ∈ dumpTables)
    (hrow : row ∈ db.rows table.name) (hrows : ∀ r ∈ rows, r ∈ db.rows table.name) :
    (tableLines table rows).count (createDumpString table.name row) = rows.count row := by
  have hname := nameOk_of_mem_dumpTables table htable
  rw [tableLines, List.count, List.countP_map, List.count]
  refine List.countP_congr fun r hr => ?_
  simp only [Function.comp_apply, beq_iff_eq]
  constructor
  · intro heq
    exact db.eq_of_texts (hrows r hr) hrow (createDumpString_inj hname hname heq).2
  · rintro rfl
    rfl

theorem count_tableLines_of_ne {rows : List Row} {table' : DumpTable} (htable : table ∈ dumpTables)
    (htable' : table' ∈ dumpTables) (hne : table.name ≠ table'.name) :
    (tableLines table' rows).count (createDumpString table.name row) = 0 := by
  rw [List.count_eq_zero]
  intro hmem
  obtain ⟨r, -, heq⟩ := List.mem_map.mp hmem
  exact hne (createDumpString_inj (nameOk_of_mem_dumpTables _ htable')
    (nameOk_of_mem_dumpTables _ htable) heq).1.symm

theorem count_flatMap_tableLines {tables : List DumpTable}
    (hsub : ∀ t ∈ tables, t ∈ dumpTables) (hnodup : (tables.map DumpTable.name).Nodup)
    (htable : table ∈ tables) (hrow : row ∈ db.rows table.name) :
    (tables.flatMap fun t => tableLines t (dumpedRows db guid t)).count
      (createDumpString table.name row) = (dumpedRows db guid table).count row := by
  have hdump := hsub table htable
  induction tables with
  | nil => exact absurd htable List.not_mem_nil
  | cons t tables ih =>
    rw [List.map_cons, List.nodup_cons] at hnodup
    have hrest := fun t' ht' => hsub t' (List.mem_cons_of_mem _ ht')
    rw [List.flatMap_cons, List.count_append]
    rcases List.mem_cons.mp htable with rfl | hmem
    · have hothers : (tables.flatMap fun t => tableLines t (dumpedRows db guid t)).count
          (createDumpString table.name row) = 0 := by
        rw [List.count_eq_zero, List.mem_flatMap]
        rintro ⟨t', ht', hline⟩
        refine List.count_eq_zero.mp (count_tableLines_of_ne hdump (hrest t' ht') ?_) hline
        exact fun heq => hnodup.1 (List.mem_map.mpr ⟨t', ht', heq.symm⟩)
      rw [hothers, count_tableLines_self hdump hrow fun _ => mem_rows_of_mem_dumpedRows,
        Nat.add_zero]
    · have hne : table.name ≠ t.name := fun heq =>
        hnodup.1 (List.mem_map.mpr ⟨table, hmem, heq⟩)
      rw [count_tableLines_of_ne hdump (hsub t List.mem_cons_self) hne, Nat.zero_add]
      exact ih hrest hnodup.2 hmem

theorem count_dumpNotes (name : String) (row : Row) :
    (dumpNotes ++ [[]]).count (createDumpString name row) = 0 := by
  have hnotes : ∀ line ∈ dumpNotes ++ [[]], line.take 2 ≠ ['I', 'N'] := by decide +kernel
  have hbegin : "INSERT INTO `".toList = 'I' :: 'N' :: "SERT INTO `".toList := by decide +kernel
  rw [List.count_eq_zero]
  intro hmem
  have htake := hnotes _ hmem
  unfold createDumpString dumpLine insertInto at htake
  generalize "INSERT INTO `".toList = start at hbegin htake
  rw [hbegin] at htake
  exact htake rfl

theorem lineCount_writtenDump (htable : table ∈ dumpTables) (hrow : row ∈ db.rows table.name) :
    lineCount (writtenDump db guid) table.name row = (dumpedRows db guid table).count row := by
  have hnotes : ∀ line ∈ dumpNotes, '\n' ∉ line := by decide +kernel
  have hlines : ∀ line ∈ dumpNotes ++
      dumpTables.flatMap fun table => tableLines table (dumpedRows db guid table),
      '\n' ∉ line := by
    intro line hline
    rcases List.mem_append.mp hline with hline | hline
    · exact hnotes line hline
    · obtain ⟨t, ht, hline⟩ := List.mem_flatMap.mp hline
      obtain ⟨r, -, rfl⟩ := List.mem_map.mp hline
      exact newline_notMem_createDumpString (nameOk_of_mem_dumpTables t ht) r
  have hzero := count_dumpNotes table.name row
  rw [List.count_append] at hzero
  rw [lineCount, writtenDump, splitOn_dumpText hlines, List.count_append, List.count_append,
    count_flatMap_tableLines (fun _ ht => ht) nodup_dumpTables htable hrow]
  omega

/-- A row of the character's own is in the dump exactly if it is one of the character. -/
theorem dumped_own_iff (htable : table ∈ dumpTables) (hguids : guidsAt db guid table.type = none)
    (hrow : row ∈ db.rows table.name) : Dumped (writtenDump db guid) table.name row ↔
      row ∈ db.select table.name (.equals table.type.fieldname guid) := by
  rw [Dumped, lineCount_writtenDump htable hrow, dumpedRows, hguids, List.count_pos_iff, rowsBy]

theorem flatten_pages (field : String) (guids : OrderedSet ℕ) :
    (cutPages (whereFull field) guids.size guids.elems).flatten = guids.elems :=
  flatten_cutPages le_rfl

theorem mem_guids_of_dumped {guids : OrderedSet ℕ} (htable : table ∈ dumpTables)
    (hguids : guidsAt db guid table.type = some guids) (hrow : row ∈ db.rows table.name) :
    Dumped (writtenDump db guid) table.name row →
      idOf table.name table.type.fieldname row ∈ guids := by
  rw [Dumped, lineCount_writtenDump htable hrow, dumpedRows, hguids, List.count_pos_iff, rowsBy]
  intro hmem
  obtain ⟨page, hpage, hmem⟩ := List.mem_flatMap.mp hmem
  have hflat : idOf table.name table.type.fieldname row ∈
      (cutPages (whereFull table.type.fieldname) guids.size guids.elems).flatten :=
    List.mem_flatten.mpr ⟨page, (asked_sublist _).subset hpage, (mem_lookup.mp hmem).2⟩
  rwa [flatten_pages] at hflat

theorem served_iff {guids : OrderedSet ℕ} {wanted : ℕ → Prop} (htable : table ∈ dumpTables)
    (hguids : guidsAt db guid table.type = some guids) :
    (∀ row ∈ db.rows table.name, wanted (idOf table.name table.type.fieldname row) →
      lineCount (writtenDump db guid) table.name row = 1) ↔ Served db table guids wanted := by
  have hnodup :
      (cutPages (whereFull table.type.fieldname) guids.size guids.elems).flatten.Nodup := by
    rw [flatten_pages]
    exact guids.nodup
  have hread := @count_read_wanted_iff Row ℕ _ (db.rows table.name)
    (idOf table.name table.type.fieldname) _ wanted _ _ hnodup (db.nodup_rows _)
  rw [flatten_pages] at hread
  refine Iff.trans (forall₂_congr fun row hrow => imp_congr_right fun _ => ?_) hread
  rw [lineCount_writtenDump htable hrow, dumpedRows, hguids, rowsBy, askedPages]

end Count

/-! ## When a dump is complete -/

section Main

variable {db : CharacterDatabase} {guid : ℕ}

theorem exists_of_mem_collected {rows : List Row} {field : ℕ} {guids : OrderedSet ℕ} {k : ℕ}
    (h : k ∈ collected rows field guids) :
    k ∈ guids ∨ ∃ row ∈ rows, (row.field field).getUInt32 = k := by
  refine foldl_invariant (fun guids' : OrderedSet ℕ => k ∈ guids' →
    k ∈ guids ∨ ∃ row ∈ rows, (row.field field).getUInt32 = k) (fun guids' row hrow ih hk => ?_)
    (fun hk => .inl hk) h
  unfold storeGUID at hk
  dsimp only at hk
  split_ifs at hk
  · rcases OrderedSet.mem_insert.mp hk with hk | hk
    · exact .inr ⟨row, hrow, hk.symm⟩
    · exact ih hk
  · exact ih hk

theorem dumped_mail_iff {mail : Row} (hmail : mail ∈ db.rows "mail") :
    Dumped (writtenDump db guid) "mail" mail ↔
      mail ∈ db.select "mail" (.equals "receiver" guid) := by
  have htable : (⟨"mail", .mail⟩ : DumpTable) ∈ dumpTables := List.mem_of_getElem? (i := 22) rfl
  exact @dumped_own_iff db guid ⟨"mail", .mail⟩ mail htable rfl hmail

theorem mailItems_iff : (∀ mail ∈ db.rows "mail", Dumped (writtenDump db guid) "mail" mail →
    ∀ row ∈ db.rows "mail_items", idOf "mail_items" "mail_id" row = idOf "mail" "id" mail →
      lineCount (writtenDump db guid) "mail_items" row = 1) ↔
    Served db ⟨"mail_items", .mailItem⟩ (mailIds db guid) (OwnsMail db guid) := by
  have htable : (⟨"mail_items", .mailItem⟩ : DumpTable) ∈ dumpTables :=
    List.mem_of_getElem? (i := 23) rfl
  rw [← @served_iff db guid ⟨"mail_items", .mailItem⟩ _ _ htable rfl]
  constructor
  · rintro h row hrow ⟨mail, hmail, heq⟩
    have hmem := mem_rows_of_mem_select hmail
    exact h mail hmem ((dumped_mail_iff hmem).mpr hmail) row hrow heq.symm
  · intro h mail hmail hdumped row hrow heq
    exact h row hrow ⟨mail, (dumped_mail_iff hmail).mp hdumped, heq.symm⟩

theorem pets_iff {table : String}
    (htable : table ∈ ["pet_aura", "pet_spell", "pet_spell_cooldown"]) :
    (∀ pet ∈ db.rows "character_pet", Dumped (writtenDump db guid) "character_pet" pet →
      ∀ row ∈ db.rows table, idOf table "guid" row = idOf "character_pet" "id" pet →
        lineCount (writtenDump db guid) table row = 1) ↔
    Served db ⟨table, .petTable⟩ (petNumbers db guid) (OwnsPet db guid) := by
  have hpets : (⟨"character_pet", .pet⟩ : DumpTable) ∈ dumpTables :=
    List.mem_of_getElem? (i := 12) rfl
  have hmem : ∀ table ∈ ["pet_aura", "pet_spell", "pet_spell_cooldown"],
      (⟨table, .petTable⟩ : DumpTable) ∈ dumpTables := by
    intro table htable
    simp only [List.mem_cons, List.not_mem_nil, or_false] at htable
    rcases htable with rfl | rfl | rfl
    · exact List.mem_of_getElem? (i := 24) rfl
    · exact List.mem_of_getElem? (i := 25) rfl
    · exact List.mem_of_getElem? (i := 26) rfl
  have hdumped : ∀ pet ∈ db.rows "character_pet", Dumped (writtenDump db guid) "character_pet" pet ↔
      pet ∈ db.select "character_pet" (.equals "owner" guid) :=
    fun pet hpet => @dumped_own_iff db guid ⟨"character_pet", .pet⟩ pet hpets rfl hpet
  rw [← @served_iff db guid ⟨table, .petTable⟩ _ _ (hmem table htable) rfl]
  constructor
  · rintro h row hrow ⟨pet, hpet, heq⟩
    have hrows := mem_rows_of_mem_select hpet
    exact h pet hrows ((hdumped pet hrows).mpr hpet) row hrow heq.symm
  · intro h pet hpet hpetDumped row hrow heq
    exact h row hrow ⟨pet, (hdumped pet hpet).mp hpetDumped, heq.symm⟩

theorem itemOccurs_iff {item : ℕ}
    (hmails : Served db ⟨"mail_items", .mailItem⟩ (mailIds db guid) (OwnsMail db guid)) :
    ItemOccurs db (writtenDump db guid) item ↔ OwnsItem db guid item := by
  have hinventory : (⟨"character_inventory", .inventory⟩ : DumpTable) ∈ dumpTables :=
    List.mem_of_getElem? (i := 11) rfl
  have hmailItems : (⟨"mail_items", .mailItem⟩ : DumpTable) ∈ dumpTables :=
    List.mem_of_getElem? (i := 23) rfl
  have hown := fun row => @dumped_own_iff db guid ⟨"character_inventory", .inventory⟩ row hinventory
    rfl
  have hserved := @served_iff db guid ⟨"mail_items", .mailItem⟩ _ (OwnsMail db guid) hmailItems rfl
  have hid : columnIndex "mail" "id" = 0 := by decide +kernel
  refine or_congr ⟨?_, ?_⟩ ⟨?_, ?_⟩
  · rintro ⟨row, hrow, hdumped, heq⟩
    exact ⟨row, (hown row hrow).mp hdumped, heq⟩
  · rintro ⟨row, hrow, heq⟩
    have hrows := mem_rows_of_mem_select hrow
    exact ⟨row, hrows, (hown row hrows).mpr hrow, heq⟩
  · rintro ⟨row, hrow, hdumped, heq⟩
    refine ⟨row, hrow, ?_, heq⟩
    have hguids := @mem_guids_of_dumped db guid ⟨"mail_items", .mailItem⟩ row _ hmailItems rfl hrow
      hdumped
    rcases exists_of_mem_collected hguids with
      hnone | ⟨mail, hmail, hmailId⟩
    · exact absurd hnone (OrderedSet.not_mem_empty _)
    · exact ⟨mail, hmail, by rw [idOf, hid]; exact hmailId⟩
  · rintro ⟨row, hrow, howns, heq⟩
    have hone := hserved.mpr hmails row hrow howns
    exact ⟨row, hrow, Nat.lt_of_lt_of_eq Nat.one_pos hone.symm, heq⟩

theorem lineCount_gift {row : Row} (hrow : row ∈ db.rows "character_gifts") :
    lineCount (writtenDump db guid) "character_gifts" row = 0 := by
  have htable : (⟨"character_gifts", .itemGift⟩ : DumpTable) ∈ dumpTables :=
    List.mem_of_getElem? (i := 8) rfl
  exact (@lineCount_writtenDump db guid ⟨"character_gifts", .itemGift⟩ row htable hrow).trans rfl

theorem dumpComplete_iff : DumpComplete db (writtenDump db guid) ↔
    (∀ row ∈ db.rows "character_gifts",
        ¬OwnsItem db guid (idOf "character_gifts" "item_guid" row)) ∧
      Served db ⟨"item_instance", .item⟩ (inventoryItems db guid) (OwnsItem db guid) ∧
      Served db ⟨"mail_items", .mailItem⟩ (mailIds db guid) (OwnsMail db guid) ∧
      ∀ table ∈ ["pet_aura", "pet_spell", "pet_spell_cooldown"],
        Served db ⟨table, .petTable⟩ (petNumbers db guid) (OwnsPet db guid) := by
  have htable : (⟨"item_instance", .item⟩ : DumpTable) ∈ dumpTables :=
    List.mem_of_getElem? (i := 21) rfl
  have hitems := @served_iff db guid ⟨"item_instance", .item⟩ _ (OwnsItem db guid) htable rfl
  constructor
  · rintro ⟨hitem, hgift, hmailItem, hpet⟩
    have hmails := mailItems_iff.mp hmailItem
    refine ⟨fun row hrow howns => ?_, hitems.mp fun row hrow howns => ?_, hmails,
      fun table htable => (pets_iff htable).mp fun pet hpets hdumped =>
        hpet pet hpets hdumped table htable⟩
    · have hone := hgift row hrow ((itemOccurs_iff hmails).mpr howns)
      rw [lineCount_gift hrow] at hone
      exact absurd hone Nat.zero_ne_one
    · exact hitem row hrow ((itemOccurs_iff hmails).mpr howns)
  · rintro ⟨hgift, hitem, hmails, hpet⟩
    refine ⟨fun row hrow hoccurs => ?_, fun row hrow hoccurs => ?_, mailItems_iff.mpr hmails,
      fun pet hpets hdumped table htable => (pets_iff htable).mpr (hpet table htable) pet hpets
        hdumped⟩
    · exact hitems.mpr hitem row hrow ((itemOccurs_iff hmails).mp hoccurs)
    · exact absurd ((itemOccurs_iff hmails).mp hoccurs) (hgift row hrow)

/-- **A dump is complete** exactly if the database meets the condition. -/
theorem getDump_complete_iff (hguid : guid < 2 ^ 32)
    (hdeleted : ∀ row ∈ db.select "characters" (.equals "guid" guid),
      (row.field 68).getUInt32 = 0) :
    (∃ dump, getDump db guid = .ok dump ∧ DumpComplete db dump) ↔ DumpServed db guid := by
  constructor
  · rintro ⟨dump, hdump, hcomplete⟩
    obtain ⟨hfits, hwritten⟩ := (getDump_eq_ok_iff hguid hdeleted).mp hdump
    rw [hwritten] at hcomplete
    obtain ⟨hgifts, hitems, hmails, hpets⟩ := dumpComplete_iff.mp hcomplete
    exact ⟨hfits, hgifts, hitems, hmails, hpets⟩
  · rintro ⟨hfits, hgifts, hitems, hmails, hpets⟩
    exact ⟨writtenDump db guid, (getDump_eq_ok_iff hguid hdeleted).mpr ⟨hfits, rfl⟩,
      dumpComplete_iff.mpr ⟨hgifts, hitems, hmails, hpets⟩⟩

/-! ## Two databases -/

/-- A row of a table that begins with the given texts. -/
def rowOf (table : String) (texts : List String) : Row :=
  (texts.map fun text => some text.toList).takeD (columnsOf table).length none

/-- The rows of a table among given ones. -/
def rowsOf (entries : List (String × List String)) (table : String) : List Row :=
  (entries.filter fun e => e.1 = table).map fun e => rowOf e.1 e.2

/-- The database of given rows. -/
def databaseOf (entries : List (String × List String))
    (hok : ∀ e ∈ entries, RowOk e.1 (rowOf e.1 e.2))
    (hdistinct : (entries.map fun e => (e.1, (rowOf e.1 e.2).texts)).Nodup)
    (hpets : ((rowsOf entries "character_pet").map fun row => row.field 0).Nodup) :
    CharacterDatabase where
  rows := rowsOf entries
  rowOk table row hrow := by
    obtain ⟨e, he, rfl⟩ := List.mem_map.mp hrow
    obtain ⟨hmem, htable⟩ := List.mem_filter.mp he
    obtain rfl : e.1 = table := by simpa using htable
    exact hok e hmem
  distinct table := by
    have hsub := ((List.filter_sublist (p := fun e => e.1 = table) (l := entries)).map
      fun e => (e.1, (rowOf e.1 e.2).texts)).nodup hdistinct
    refine List.Nodup.of_map (Prod.mk table) ?_
    rw [rowsOf, List.map_map, List.map_map]
    refine (congrArg List.Nodup (List.map_congr_left fun e he => ?_)).mp hsub
    obtain rfl : e.1 = table := by simpa using (List.mem_filter.mp he).2
    rfl
  petIds := hpets

/-- A character with a bag, an item in it, and a pet with a spell. -/
def carrying : CharacterDatabase :=
  databaseOf [("characters", ["1", "1", "Anna"]), ("character_inventory", ["1", "0", "19", "70"]),
    ("character_inventory", ["1", "70", "0", "71"]), ("item_instance", ["70", "4500", "1"]),
    ("item_instance", ["71", "6948", "1"]), ("item_instance", ["72", "6948", "2"]),
    ("character_pet", ["9", "416", "1"]), ("pet_spell", ["9", "3110", "1"])] (by decide +kernel)
    (by decide +kernel) (by decide +kernel)

/-- A character with a mail that has an item. -/
def mailed : CharacterDatabase :=
  databaseOf [("characters", ["1", "1", "Anna"]), ("mail", ["5", "0", "41", "0", "2", "1"]),
    ("mail_items", ["5", "71", "1"]), ("item_instance", ["71", "6948", "1"])] (by decide +kernel)
    (by decide +kernel) (by decide +kernel)

theorem getDump_complete_carrying :
    ∃ dump, getDump carrying 1 = .ok dump ∧ DumpComplete carrying dump := by
  have hserved : (∀ row ∈ carrying.select "characters" (.equals "guid" 1),
        (row.field 68).getUInt32 = 0) ∧
      (∀ table ∈ dumpTables, Fits carrying table (guidsAt carrying 1 table.type)) ∧
      (∀ row ∈ carrying.rows "character_gifts",
        ¬OwnsItem carrying 1 (idOf "character_gifts" "item_guid" row)) ∧
      Served carrying ⟨"item_instance", .item⟩ (inventoryItems carrying 1) (OwnsItem carrying 1) ∧
      Served carrying ⟨"mail_items", .mailItem⟩ (mailIds carrying 1) (OwnsMail carrying 1) ∧
      ∀ table ∈ ["pet_aura", "pet_spell", "pet_spell_cooldown"],
        Served carrying ⟨table, .petTable⟩ (petNumbers carrying 1) (OwnsPet carrying 1) := by
    decide +kernel
  obtain ⟨hdeleted, hfits, hgifts, hitems, hmails, hpets⟩ := hserved
  exact (getDump_complete_iff (by decide) hdeleted).mpr ⟨hfits, hgifts, hitems, hmails, hpets⟩

/-- The items are written before those of the mails are known. -/
theorem not_getDump_complete :
    ¬∀ (db : CharacterDatabase) (guid : ℕ) (dump : Text), guid < 2 ^ 32 →
      getDump db guid = .ok dump → DumpComplete db dump := by
  intro h
  have hmailed : (∀ row ∈ mailed.select "characters" (.equals "guid" 1),
        (row.field 68).getUInt32 = 0) ∧
      (∀ table ∈ dumpTables, Fits mailed table (guidsAt mailed 1 table.type)) ∧
      ¬Served mailed ⟨"item_instance", .item⟩ (inventoryItems mailed 1) (OwnsItem mailed 1) := by
    decide +kernel
  have hdump : getDump mailed 1 = .ok (writtenDump mailed 1) :=
    (getDump_eq_ok_iff (by decide) hmailed.1).mpr ⟨hmailed.2.1, rfl⟩
  obtain ⟨-, hitems, -⟩ := dumpComplete_iff.mp (h mailed 1 _ (by decide) hdump)
  exact hmailed.2.2 hitems

end Main

end TeraCore
