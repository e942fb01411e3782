import Mathlib.Algebra.Group.Nat.Defs

/-!
# Object guids

A guid is a 64-bit number.  Its top 16 bits say what kind of object it names, and the low part
of a player's guid is the number the character tables use.

## Main definitions

* `Guid`: an object guid
* `guidHipart`, `guidLopart`: its kind, and its number
* `isGroup`: does the guid name a group?
* `groupGuid`: the guid of the group with a number
-/

namespace TeraCore

/-- An object guid. -/
abbrev Guid := ℕ

/-- The kind of object a guid names: its bits 48 to 63. -/
def guidHipart (guid : Guid) : ℕ := guid / 2 ^ 48 % 2 ^ 16

/-- The number of a guid without an entry part, as a player's or a group's: its low 32 bits. -/
def guidLopart (guid : Guid) : ℕ := guid % 2 ^ 32

/-- The kind of a group's guid. -/
def highguidGroup : ℕ := 0x1F50

/-- Does the guid name a group? -/
def isGroup (guid : Guid) : Bool := guidHipart guid == highguidGroup

/-- The guid of the group with the number `lowguid`. -/
def groupGuid (lowguid : ℕ) : Guid := highguidGroup * 2 ^ 48 + lowguid

end TeraCore
