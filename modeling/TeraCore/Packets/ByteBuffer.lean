import TeraCore.Commons.LittleEndian

/-!
# Byte buffers

What goes over the wire is put together in a byte buffer, and taken apart again: a row of bytes,
with a position to write at and one to read from.  There is an operator for each type that can be
written, and one for each that can be read.

* Numbers are little-endian.
* A string ends with a zero byte; who reads it stops at the end of the buffer, too.
* Vectors, lists and maps begin with a 32-bit count.
* A packed GUID is a mask of its bytes that are not zero, and these bytes.

Nothing writes a truth value: it is promoted to a 32-bit number, and written as one.

## Main definitions

* `ByteBuffer`, `ByteBuffer.append`, `ByteBuffer.read`
* `Ty`, `Ty.put`, `Ty.get`: the types of the operators, and the operators
* `ByteBuffer.appendPackGUID`, `ByteBuffer.readPackGUID`
* `Field`, `Value`, `writeAll`, `readAll`: packets as rows of values
-/

namespace TeraCore.Packets

open Commons

/-- What stops a reader or a writer: an access outside of the buffer, nothing to write, or a buffer
that has grown too large. -/
inductive Failure where
  | position
  | source
  | assertion
  deriving DecidableEq

structure ByteBuffer where
  rpos : ℕ
  wpos : ℕ
  storage : List (BitVec 8)
  deriving DecidableEq

namespace ByteBuffer

/-- A new buffer. -/
def empty : ByteBuffer := ⟨0, 0, []⟩

variable (b : ByteBuffer)

def size : ℕ := b.storage.length

/-- **`append`** of some bytes, at the position to write at. -/
def append (src : List (BitVec 8)) : Except Failure ByteBuffer :=
  if src = [] then .error .source
  else if b.size < 10000000 then
    let storage := b.storage ++ List.replicate (b.wpos + src.length - b.size) 0
    .ok { b with
      storage := storage.take b.wpos ++ src ++ storage.drop (b.wpos + src.length)
      wpos := b.wpos + src.length }
  else .error .assertion

/-- **`read`** of a number of some bytes, at the position to read from. -/
def read (n : ℕ) : Except Failure (ℕ × ByteBuffer) :=
  if b.rpos + n > b.size then .error .position
  else .ok (fromLittleEndian ((b.storage.drop b.rpos).take n), { b with rpos := b.rpos + n })

/-! ## Strings -/

/-- The characters, and a zero byte. -/
def putString (value : List (BitVec 8)) : Except Failure ByteBuffer := do
  let characters := if value.length ≠ 0 then b.append value else .ok b
  let b ← characters
  b.append [0]

/-- The characters up to a zero byte, in a buffer with so many bytes left. -/
def stringLoop : ℕ → ByteBuffer → List (BitVec 8) → Except Failure (List (BitVec 8) × ByteBuffer)
  | 0, b, value => .ok (value, b)
  | left + 1, b, value =>
    if b.rpos < b.size then do
      let (c, b) ← b.read 1
      if c = 0 then .ok (value, b) else stringLoop left b (value ++ [BitVec.ofNat 8 c])
    else .ok (value, b)

def getString : Except Failure (List (BitVec 8) × ByteBuffer) :=
  stringLoop (b.size - b.rpos) b []

/-! ## Packed GUIDs -/

/-- The mask and the bytes of a GUID, from its `i`th byte on; after so many shifts nothing is
left. -/
def packLoop : ℕ → ℕ → BitVec 64 → BitVec 8 → List (BitVec 8) → BitVec 8 × List (BitVec 8)
  | 0, _, _, mark, bytes => (mark, bytes)
  | left + 1, i, guid, mark, bytes =>
    if guid = 0 then (mark, bytes)
    else if guid &&& 0xFF ≠ 0 then
      packLoop left (i + 1) (guid >>> 8) (mark ||| 1#8 <<< i)
        (bytes ++ [(guid &&& 0xFF).setWidth 8])
    else packLoop left (i + 1) (guid >>> 8) mark bytes

def appendPackGUID (guid : BitVec 64) : Except Failure ByteBuffer :=
  let packed := packLoop 8 0 guid 0 []
  b.append (packed.1 :: packed.2)

/-- The bytes of a GUID that a mask announces, from the `i`th on. -/
def unpackLoop (mark : BitVec 8) :
    ℕ → ℕ → BitVec 64 → ByteBuffer → Except Failure (BitVec 64 × ByteBuffer)
  | 0, _, guid, b => .ok (guid, b)
  | left + 1, i, guid, b =>
    if mark &&& 1#8 <<< i ≠ 0 then do
      let (bit, b) ← b.read 1
      unpackLoop mark left (i + 1) (guid ||| BitVec.ofNat 64 bit <<< (i * 8)) b
    else unpackLoop mark left (i + 1) guid b

def readPackGUID : Except Failure (BitVec 64 × ByteBuffer) := do
  let (guidmark, b) ← b.read 1
  unpackLoop (BitVec.ofNat 8 guidmark) 8 0 0 b

end ByteBuffer

/-! ## Types -/

inductive IntTy where
  | uint8
  | uint16
  | uint32
  | uint64
  | int8
  | int16
  | int32
  | int64
  deriving DecidableEq

/-- How many bytes an integer takes. -/
def IntTy.size : IntTy → ℕ
  | uint8 | int8 => 1
  | uint16 | int16 => 2
  | uint32 | int32 => 4
  | uint64 | int64 => 8

def IntTy.signed : IntTy → Bool
  | int8 | int16 | int32 | int64 => true
  | _ => false

/-- **The types** that there are operators for. -/
inductive Ty where
  | bool
  | int (i : IntTy)
  | string
  | vector (element : Ty)
  | list (element : Ty)
  | map (key value : Ty)
  deriving DecidableEq

/-- The values of a type. A map is the row of its entries, in the order of their keys. -/
def Ty.denote : Ty → Type
  | bool => Bool
  | int i => BitVec (8 * i.size)
  | string => List (BitVec 8)
  | vector element => List element.denote
  | list element => List element.denote
  | map key value => List (key.denote × value.denote)

/-- One row comes before another: the first elements that differ do, or it is a part of it. -/
def lexBefore {α : Type} (before : α → α → Bool) : List α → List α → Bool
  | _, [] => false
  | [], _ :: _ => true
  | x :: l, y :: l' =>
    if before x y then true else if before y x then false else lexBefore before l l'

/-- The order of the keys of a map. -/
def Ty.before : (t : Ty) → t.denote → t.denote → Bool
  | bool => fun x y => !x && y
  | int i => fun x y => if i.signed then BitVec.slt x y else BitVec.ult x y
  | string => lexBefore BitVec.ult
  | vector element => lexBefore element.before
  | list element => lexBefore element.before
  | map key value =>
    lexBefore fun e e' =>
      if key.before e.1 e'.1 then true
      else if key.before e'.1 e.1 then false
      else value.before e.2 e'.2

/-- Insertion into a map: a key that is there keeps its value. -/
def insertEntry {κ ν : Type} (before : κ → κ → Bool) (k : κ) (v : ν) :
    List (κ × ν) → List (κ × ν)
  | [] => [(k, v)]
  | e :: m =>
    if before e.1 k then e :: insertEntry before k v m
    else if before k e.1 then (k, v) :: e :: m
    else e :: m

/-! ## The operators -/

def putInt (i : IntTy) (value : BitVec (8 * i.size)) (b : ByteBuffer) : Except Failure ByteBuffer :=
  b.append (littleEndian i.size value.toNat)

def getInt (i : IntTy) (b : ByteBuffer) : Except Failure (BitVec (8 * i.size) × ByteBuffer) := do
  let (value, b) ← b.read i.size
  .ok (BitVec.ofNat (8 * i.size) value, b)

/-- No operator takes a truth value; the one for `int32` is chosen, by promotion. -/
def putBool (value : Bool) (b : ByteBuffer) : Except Failure ByteBuffer :=
  putInt .int32 (if value then 1 else 0) b

/-- One byte, a signed character, that is above zero. -/
def getBool (b : ByteBuffer) : Except Failure (Bool × ByteBuffer) := do
  let (value, b) ← b.read 1
  .ok (decide (0 < (BitVec.ofNat 8 value).toInt), b)

section Containers

variable {α κ ν : Type}

/-- A vector or a list: its size, and its elements. -/
def putMany (put : α → ByteBuffer → Except Failure ByteBuffer) (value : List α) (b : ByteBuffer) :
    Except Failure ByteBuffer := do
  let b ← putInt .uint32 (BitVec.ofNat 32 value.length) b
  value.foldlM (fun b x => put x b) b

def getElements (get : ByteBuffer → Except Failure (α × ByteBuffer)) :
    ℕ → ByteBuffer → Except Failure (List α × ByteBuffer)
  | 0, b => .ok ([], b)
  | n + 1, b => do
    let (x, b) ← get b
    let (l, b) ← getElements get n b
    .ok (x :: l, b)

def getMany (get : ByteBuffer → Except Failure (α × ByteBuffer)) (b : ByteBuffer) :
    Except Failure (List α × ByteBuffer) := do
  let (size, b) ← getInt .uint32 b
  getElements get size.toNat b

def putMap (putKey : κ → ByteBuffer → Except Failure ByteBuffer)
    (putValue : ν → ByteBuffer → Except Failure ByteBuffer) (value : List (κ × ν))
    (b : ByteBuffer) : Except Failure ByteBuffer := do
  let b ← putInt .uint32 (BitVec.ofNat 32 value.length) b
  value.foldlM (fun b e => do let b ← putKey e.1 b; putValue e.2 b) b

/-- So many entries, inserted into a map. -/
def getEntries (before : κ → κ → Bool) (getKey : ByteBuffer → Except Failure (κ × ByteBuffer))
    (getValue : ByteBuffer → Except Failure (ν × ByteBuffer)) :
    ℕ → List (κ × ν) → ByteBuffer → Except Failure (List (κ × ν) × ByteBuffer)
  | 0, m, b => .ok (m, b)
  | n + 1, m, b => do
    let (k, b) ← getKey b
    let (v, b) ← getValue b
    getEntries before getKey getValue n (insertEntry before k v m) b

def getMap (before : κ → κ → Bool) (getKey : ByteBuffer → Except Failure (κ × ByteBuffer))
    (getValue : ByteBuffer → Except Failure (ν × ByteBuffer)) (b : ByteBuffer) :
    Except Failure (List (κ × ν) × ByteBuffer) := do
  let (size, b) ← getInt .uint32 b
  getEntries before getKey getValue size.toNat [] b

end Containers

/-- **The operators that write**: `<<`. -/
def Ty.put : (t : Ty) → t.denote → ByteBuffer → Except Failure ByteBuffer
  | bool => putBool
  | int i => putInt i
  | string => fun value b => b.putString value
  | vector element => putMany element.put
  | list element => putMany element.put
  | map key value => putMap key.put value.put

/-- **The operators that read**: `>>`. -/
def Ty.get : (t : Ty) → ByteBuffer → Except Failure (t.denote × ByteBuffer)
  | bool => getBool
  | int i => getInt i
  | string => ByteBuffer.getString
  | vector element => getMany element.get
  | list element => getMany element.get
  | map key value => getMap key.before key.get value.get

/-! ## Rows of values -/

/-- What a value of a packet can be: something that an operator takes, or a packed GUID. -/
inductive Field where
  | plain (t : Ty)
  | packGUID
  deriving DecidableEq

def Field.denote : Field → Type
  | plain t => t.denote
  | packGUID => BitVec 64

def Field.put : (f : Field) → f.denote → ByteBuffer → Except Failure ByteBuffer
  | plain t => t.put
  | packGUID => fun guid b => b.appendPackGUID guid

def Field.get : (f : Field) → ByteBuffer → Except Failure (f.denote × ByteBuffer)
  | plain t => t.get
  | packGUID => ByteBuffer.readPackGUID

/-- A typed value. -/
abbrev Value : Type := (f : Field) × f.denote

/-- **Values are written**, one after another. -/
def writeAll (values : List Value) (b : ByteBuffer) : Except Failure ByteBuffer :=
  values.foldlM (fun b value => value.1.put value.2 b) b

/-- **Values are read**, one type after another. -/
def readAll : List Field → ByteBuffer → Except Failure (List Value × ByteBuffer)
  | [], b => .ok ([], b)
  | f :: fields, b => do
    let (value, b) ← f.get b
    let (values, b) ← readAll fields b
    .ok (⟨f, value⟩ :: values, b)

end TeraCore.Packets
