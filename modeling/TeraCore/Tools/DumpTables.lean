import Mathlib.Data.List.Nodup
import TeraCore.Tools.DumpLine

/-!
# The tables of a character dump

A dump has the rows of 27 tables.  The tables of a dump are of ten types, which say by which column
their rows are looked up, and which columns of them hold ids of other tables.

## Main definitions

* `dumpTables`: the tables, in the order in which they are written
* `columnsOf`: the columns of a table in the schema of the database, and what they hold
* `RowOk`: a row fits the columns of its table
* `CharacterDatabase`: the rows of the tables
* `CharacterDatabase.idOf`: the id in a column of a row
-/

namespace TeraCore

inductive DumpTableType where
  | character
  | charTable
  | eqsetTable
  | inventory
  | mail
  | mailItem
  | item
  | itemGift
  | pet
  | petTable
  deriving DecidableEq

structure DumpTable where
  name : String
  type : DumpTableType
  deriving DecidableEq

/-- **The tables of a dump**, in the order in which they are written. -/
def dumpTables : List DumpTable :=
  [⟨"characters", .character⟩,
    ⟨"character_account_data", .charTable⟩,
    ⟨"character_achievement", .charTable⟩,
    ⟨"character_achievement_progress", .charTable⟩,
    ⟨"character_action", .charTable⟩,
    ⟨"character_aura", .charTable⟩,
    ⟨"character_declinedname", .charTable⟩,
    ⟨"character_equipmentsets", .eqsetTable⟩,
    ⟨"character_gifts", .itemGift⟩,
    ⟨"character_glyphs", .charTable⟩,
    ⟨"character_homebind", .charTable⟩,
    ⟨"character_inventory", .inventory⟩,
    ⟨"character_pet", .pet⟩,
    ⟨"character_pet_declinedname", .pet⟩,
    ⟨"character_queststatus", .charTable⟩,
    ⟨"character_queststatus_rewarded", .charTable⟩,
    ⟨"character_reputation", .charTable⟩,
    ⟨"character_skills", .charTable⟩,
    ⟨"character_spell", .charTable⟩,
    ⟨"character_spell_cooldown", .charTable⟩,
    ⟨"character_talent", .charTable⟩,
    ⟨"item_instance", .item⟩,
    ⟨"mail", .mail⟩,
    ⟨"mail_items", .mailItem⟩,
    ⟨"pet_aura", .petTable⟩,
    ⟨"pet_spell", .petTable⟩,
    ⟨"pet_spell_cooldown", .petTable⟩]

/-! ## The schema -/

/-- What a column holds: the guid of the character the row belongs to, the id of an item, a mail or
a pet, something a restore may choose anew, or other data. -/
inductive Holding where
  | owner
  | item
  /-- The id of an item, or 0 for none. -/
  | optItem
  | mail
  | pet
  /-- The full guid of the item an aura was cast with, or 0 for none. -/
  | castItem
  | account
  | name
  | atLogin
  | setGuid
  | deleteInfo
  | data
  deriving DecidableEq

def Holding.bits : Holding → Option ℕ
  | owner | item | optItem | mail | pet | account => some 32
  | castItem => some 64
  | name | atLogin | setGuid | deleteInfo | data => none

structure Column where
  name : String
  holds : Holding

/-- Columns of other data, whose names nothing asks for. -/
def data (number : ℕ) : List Column := List.replicate number ⟨"", .data⟩

/-- **The columns of a table** in the schema of the database. -/
def columnsOf : String → List Column
  | "characters" =>
    [⟨"guid", .owner⟩, ⟨"account", .account⟩, ⟨"name", .name⟩] ++ data 33 ++
      [⟨"at_login", .atLogin⟩] ++ data 31 ++
      [⟨"deleteInfos_Account", .deleteInfo⟩, ⟨"deleteInfos_Name", .deleteInfo⟩,
        ⟨"deleteDate", .deleteInfo⟩]
  | "character_account_data" => ⟨"guid", .owner⟩ :: data 3
  | "character_achievement" => ⟨"guid", .owner⟩ :: data 2
  | "character_achievement_progress" => ⟨"guid", .owner⟩ :: data 3
  | "character_action" => ⟨"guid", .owner⟩ :: data 4
  | "character_aura" =>
    [⟨"guid", .owner⟩, ⟨"caster_guid", .data⟩, ⟨"item_guid", .castItem⟩] ++ data 13
  | "character_declinedname" => ⟨"guid", .owner⟩ :: data 5
  | "character_equipmentsets" =>
    [⟨"guid", .owner⟩, ⟨"setguid", .setGuid⟩] ++ data 4 ++
      [⟨"item0", .optItem⟩, ⟨"item1", .optItem⟩, ⟨"item2", .optItem⟩, ⟨"item3", .optItem⟩,
        ⟨"item4", .optItem⟩,
        ⟨"item5", .optItem⟩, ⟨"item6", .optItem⟩, ⟨"item7", .optItem⟩, ⟨"item8", .optItem⟩,
          ⟨"item9", .optItem⟩,
        ⟨"item10", .optItem⟩, ⟨"item11", .optItem⟩, ⟨"item12", .optItem⟩, ⟨"item13", .optItem⟩,
        ⟨"item14", .optItem⟩, ⟨"item15", .optItem⟩, ⟨"item16", .optItem⟩, ⟨"item17", .optItem⟩,
        ⟨"item18", .optItem⟩]
  | "character_gifts" => [⟨"guid", .owner⟩, ⟨"item_guid", .item⟩] ++ data 2
  | "character_glyphs" => ⟨"guid", .owner⟩ :: data 7
  | "character_homebind" => ⟨"guid", .owner⟩ :: data 5
  | "character_inventory" =>
    [⟨"guid", .owner⟩, ⟨"bag", .optItem⟩, ⟨"slot", .data⟩, ⟨"item", .item⟩]
  | "character_pet" => [⟨"id", .pet⟩, ⟨"entry", .data⟩, ⟨"owner", .owner⟩] ++ data 14
  | "character_pet_declinedname" => [⟨"id", .pet⟩, ⟨"owner", .owner⟩] ++ data 5
  | "character_queststatus" => ⟨"guid", .owner⟩ :: data 13
  | "character_queststatus_rewarded" => ⟨"guid", .owner⟩ :: data 1
  | "character_reputation" => ⟨"guid", .owner⟩ :: data 3
  | "character_skills" => ⟨"guid", .owner⟩ :: data 3
  | "character_spell" => ⟨"guid", .owner⟩ :: data 3
  | "character_spell_cooldown" => ⟨"guid", .owner⟩ :: data 3
  | "character_talent" => ⟨"guid", .owner⟩ :: data 2
  | "item_instance" => [⟨"guid", .item⟩, ⟨"itemEntry", .data⟩, ⟨"owner_guid", .owner⟩] ++ data 11
  | "mail" => ⟨"id", .mail⟩ :: data 4 ++ ⟨"receiver", .owner⟩ :: data 8
  | "mail_items" => [⟨"mail_id", .mail⟩, ⟨"item_guid", .item⟩, ⟨"receiver", .owner⟩]
  | "pet_aura" => ⟨"guid", .pet⟩ :: data 14
  | "pet_spell" => ⟨"guid", .pet⟩ :: data 2
  | "pet_spell_cooldown" => ⟨"guid", .pet⟩ :: data 2
  | _ => []

/-- The position of a column, counted from 0. -/
def columnIndex (table field : String) : ℕ :=
  (columnsOf table).findIdx fun column => column.name = field

/-! ## The rows -/

/-- A number, as the database writes it. -/
def IsNumber (bits : ℕ) (field : SqlField) : Prop :=
  field = some (Nat.toDigits 10 (digitsValue field.getString)) ∧
    digitsValue field.getString < 2 ^ bits

instance (bits : ℕ) (field : SqlField) : Decidable (IsNumber bits field) :=
  inferInstanceAs (Decidable (_ ∧ _))

/-- **A row of a table**: a value for each column, and numbers in the columns of ids. -/
def RowOk (table : String) (row : Row) : Prop :=
  row.length = (columnsOf table).length ∧
    ∀ cell ∈ (columnsOf table).zip row, ∀ bits ∈ cell.1.holds.bits.toList, IsNumber bits cell.2

instance (table : String) (row : Row) : Decidable (RowOk table row) :=
  inferInstanceAs (Decidable (_ ∧ _))

/-- **The rows of the tables.**  No two rows of a table are the same, because a primary key of
numbers tells them apart; that of the pets is their id. -/
structure CharacterDatabase where
  rows : String → List Row
  rowOk : ∀ table, ∀ row ∈ rows table, RowOk table row
  distinct : ∀ table, ((rows table).map Row.texts).Nodup
  petIds : ((rows "character_pet").map fun row => row.field 0).Nodup

namespace CharacterDatabase

/-- The id in a column of a row. -/
def idOf (table field : String) (row : Row) : ℕ := (row.field (columnIndex table field)).getUInt32

theorem nodup_rows (db : CharacterDatabase) (table : String) : (db.rows table).Nodup :=
  List.Nodup.of_map _ (db.distinct table)

theorem eq_of_texts (db : CharacterDatabase) {table : String} {row row' : Row}
    (hrow : row ∈ db.rows table) (hrow' : row' ∈ db.rows table) (h : row.texts = row'.texts) :
    row = row' :=
  List.inj_on_of_nodup_map (db.distinct table) hrow hrow' h

end CharacterDatabase

theorem nodup_dumpTables : (dumpTables.map DumpTable.name).Nodup := by decide +kernel

theorem nameOk_of_mem_dumpTables : ∀ table ∈ dumpTables, NameOk table.name := by decide +kernel

end TeraCore
