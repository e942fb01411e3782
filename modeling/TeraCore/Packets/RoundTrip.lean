import TeraCore.Packets.ByteBuffer

/-!
# Byte buffers: the round trip

Values that are written to a new buffer are read back, type after type, and nothing is left over.

Each writer puts a row of bytes at the end of the buffer, `Ty.encode`, and each reader takes just
that row off the front of what is left, `ByteBuffer.rest`; readers and writers meet there.

They do not meet for truth values: one is written as four bytes, and read as one.

## Main results

* `Ty.put_eq`: what is written
* `Ty.get_encode`: what is read
-/

namespace TeraCore.Packets

open Commons

theorem bind_eq_ok {α β : Type} {x : Except Failure α} {f : α → Except Failure β} {y : β} :
    (x >>= f) = .ok y ↔ ∃ a, x = .ok a ∧ f a = .ok y := by
  cases x with
  | error e => simp [bind, Except.bind]
  | ok a => simp [bind, Except.bind]

/-! ## The values and their bytes -/

/-- A string without a zero byte. -/
def NoZero (s : List (BitVec 8)) : Prop := 0 ∉ s

/-- Strings without a zero byte, and maps in the order of their keys. -/
def Ty.WF : (t : Ty) → t.denote → Prop
  | bool => fun _ => True
  | int _ => fun _ => True
  | string => NoZero
  | vector element => fun (l : List element.denote) => ∀ x ∈ l, element.WF x
  | list element => fun (l : List element.denote) => ∀ x ∈ l, element.WF x
  | map key value => fun (m : List (key.denote × value.denote)) =>
    (∀ e ∈ m, key.WF e.1 ∧ value.WF e.2) ∧
      m.Pairwise fun e e' => key.before e.1 e'.1 = true

/-- The sizes of the containers fit their fields. -/
def Ty.Fits : (t : Ty) → t.denote → Prop
  | bool => fun _ => True
  | int _ => fun _ => True
  | string => fun _ => True
  | vector element => fun (l : List element.denote) => l.length < 2 ^ 32 ∧ ∀ x ∈ l, element.Fits x
  | list element => fun (l : List element.denote) => l.length < 2 ^ 32 ∧ ∀ x ∈ l, element.Fits x
  | map key value => fun (m : List (key.denote × value.denote)) =>
    m.length < 2 ^ 32 ∧ ∀ e ∈ m, key.Fits e.1 ∧ value.Fits e.2

/-- Nothing of the value is a truth value. -/
def Ty.boolFree : (t : Ty) → t.denote → Bool
  | bool => fun _ => false
  | int _ => fun _ => true
  | string => fun _ => true
  | vector element => fun (l : List element.denote) => l.all element.boolFree
  | list element => fun (l : List element.denote) => l.all element.boolFree
  | map key value => fun (m : List (key.denote × value.denote)) =>
    m.all fun e => key.boolFree e.1 && value.boolFree e.2

/-- Nothing of the type is a map. -/
def Ty.mapFree : Ty → Bool
  | bool | int _ | string => true
  | vector element | list element => element.mapFree
  | map _ _ => false

def encodeBool (value : Bool) : List (BitVec 8) := littleEndian 4 (if value then 1 else 0)

def encodeInt (i : IntTy) (value : BitVec (8 * i.size)) : List (BitVec 8) :=
  littleEndian i.size value.toNat

def encodeString (s : List (BitVec 8)) : List (BitVec 8) := s ++ [0]

/-- The bytes of a vector or a list. -/
def encodeMany {α : Type} (encode : α → List (BitVec 8)) (l : List α) : List (BitVec 8) :=
  littleEndian 4 (l.length % 2 ^ 32) ++ l.flatMap encode

/-- **The bytes of a value**, as they are written. -/
def Ty.encode : (t : Ty) → t.denote → List (BitVec 8)
  | bool => encodeBool
  | int i => encodeInt i
  | string => encodeString
  | vector element => encodeMany element.encode
  | list element => encodeMany element.encode
  | map key value =>
    encodeMany fun (e : key.denote × value.denote) => key.encode e.1 ++ value.encode e.2

/-- The bytes of a packed GUID. -/
def encodeGUID (guid : BitVec 64) : List (BitVec 8) :=
  (ByteBuffer.packLoop 8 0 guid 0 []).1 :: (ByteBuffer.packLoop 8 0 guid 0 []).2

def Field.encode : (f : Field) → f.denote → List (BitVec 8)
  | plain t => t.encode
  | packGUID => encodeGUID

def Field.WF : (f : Field) → f.denote → Prop
  | plain t => t.WF
  | packGUID => fun _ => True

def Field.Fits : (f : Field) → f.denote → Prop
  | plain t => t.Fits
  | packGUID => fun _ => True

def Field.boolFree : (f : Field) → f.denote → Bool
  | plain t => t.boolFree
  | packGUID => fun _ => true

def Field.mapFree : Field → Bool
  | plain t => t.mapFree
  | packGUID => true

theorem IntTy.size_pos (i : IntTy) : 0 < i.size := by cases i <;> decide

@[simp] theorem length_encodeString (s : List (BitVec 8)) :
    (encodeString s).length = s.length + 1 := List.length_append

theorem Ty.encode_length_pos (t : Ty) (value : t.denote) : 0 < (t.encode value).length := by
  cases t with
  | bool => simp [encode, encodeBool]
  | int i => simpa [encode, encodeInt] using i.size_pos
  | string =>
    have hlength : (encode .string value).length = List.length value + 1 :=
      length_encodeString value
    omega
  | vector element => simp [encode, encodeMany]
  | list element => simp [encode, encodeMany]
  | map key value => simp [encode, encodeMany]

namespace ByteBuffer

variable {b b' : ByteBuffer} {l r : List (BitVec 8)} {n k : ℕ}

/-! ## Writing -/

/-- The buffer with some bytes more. -/
def written (b : ByteBuffer) (l : List (BitVec 8)) : ByteBuffer :=
  { b with storage := b.storage ++ l, wpos := b.wpos + l.length }

@[simp] theorem written_nil : b.written [] = b := by simp [written]

theorem written_written (l r : List (BitVec 8)) :
    (b.written l).written r = b.written (l ++ r) := by
  simp [written, Nat.add_assoc]

@[simp] theorem size_written : (b.written l).size = b.size + l.length := List.length_append

theorem atEnd_written (h : b.wpos = b.size) : (b.written l).wpos = (b.written l).size := by
  rw [size_written, ← h]
  rfl

/-- **What is appended at the end** makes the buffer longer. -/
theorem append_eq (h : b.wpos = b.size) (hok : b.append l = .ok b') :
    b' = b.written l ∧ b.size < 10000000 := by
  unfold append at hok
  split_ifs at hok with hnil hsmall
  refine ⟨?_, hsmall⟩
  have hgrow : b.wpos + l.length - b.size = l.length := by omega
  have hstorage : b.storage.length = b.wpos := h.symm
  simp only [Except.ok.injEq] at hok
  rw [← hok, hgrow, written]
  congr 1
  rw [List.take_append_of_le_length hstorage.ge, List.take_of_length_le hstorage.le,
    List.drop_of_length_le (by simp [hstorage]), List.append_nil]

end ByteBuffer

/-! ## What is written -/

section Writers

open ByteBuffer

variable {b b' : ByteBuffer}

theorem putInt_eq {i : IntTy} {value : BitVec (8 * i.size)} (h : b.wpos = b.size)
    (hok : putInt i value b = .ok b') : b' = b.written (encodeInt i value) ∧ b.size < 10000000 :=
  append_eq h hok

theorem putBool_eq {value : Bool} (h : b.wpos = b.size) (hok : putBool value b = .ok b') :
    b' = b.written (encodeBool value) ∧ b.size < 10000000 := by
  have hbytes : encodeInt .int32 (if value then 1 else 0) = encodeBool value := by
    cases value <;> rfl
  rw [← hbytes]
  exact putInt_eq h hok

theorem putString_eq {s : List (BitVec 8)} (h : b.wpos = b.size) (hok : b.putString s = .ok b') :
    b' = b.written (encodeString s) ∧ b.size < 10000000 := by
  obtain ⟨b₁, hfirst, hlast⟩ : ∃ b₁, (if s.length ≠ 0 then b.append s else .ok b) = .ok b₁ ∧
      b₁.append [0] = .ok b' := bind_eq_ok.mp hok
  by_cases hs : s = []
  · subst hs
    obtain rfl := Except.ok.inj hfirst
    exact append_eq h hlast
  · rw [if_pos (by simpa using hs)] at hfirst
    obtain ⟨rfl, hsmall⟩ := append_eq h hfirst
    obtain ⟨rfl, -⟩ := append_eq (atEnd_written h) hlast
    exact ⟨written_written _ _, hsmall⟩

section Containers

variable {α : Type} {put : α → ByteBuffer → Except Failure ByteBuffer}
  {encode : α → List (BitVec 8)} {fits : α → Prop}

section

variable
  (hput : ∀ x (b b' : ByteBuffer), b.wpos = b.size → put x b = .ok b' → b' = b.written (encode x) ∧
    fits x ∧ b.size < 10000000)
  (hpos : ∀ x, 0 < (encode x).length) {l : List α}
include hput hpos

/-- **The elements of a container** are written one after another, and there is an end to it. -/
theorem foldlM_put_eq {b b' : ByteBuffer} (h : b.wpos = b.size)
    (hok : l.foldlM (fun b x => put x b) b = .ok b') :
    b' = b.written (l.flatMap encode) ∧ (∀ x ∈ l, fits x) ∧
      (l ≠ [] → b.size + l.length ≤ 10000000) := by
  induction l generalizing b with
  | nil =>
    obtain rfl := Except.ok.inj hok
    exact ⟨written_nil.symm, by simp, fun hne => absurd rfl hne⟩
  | cons x l ih =>
    obtain ⟨b₁, hfirst, hrest⟩ := bind_eq_ok.mp hok
    obtain ⟨rfl, hx, hsmall⟩ := hput x b b₁ h hfirst
    obtain ⟨rfl, hl, hlong⟩ := ih (atEnd_written h) hrest
    refine ⟨written_written _ _, ?_, fun _ => ?_⟩
    · simpa using ⟨hx, hl⟩
    · have hone := hpos x
      rw [size_written] at hlong
      rw [List.length_cons]
      by_cases hnil : l = []
      · subst hnil
        rw [List.length_nil]
        omega
      · have := hlong hnil
        omega

theorem putMany_eq {b b' : ByteBuffer} (h : b.wpos = b.size) (hok : putMany put l b = .ok b') :
    b' = b.written (encodeMany encode l) ∧ (l.length < 2 ^ 32 ∧ ∀ x ∈ l, fits x) ∧
      b.size < 10000000 := by
  obtain ⟨b₁, hcount, hrest⟩ := bind_eq_ok.mp hok
  obtain ⟨rfl, hsmall⟩ := putInt_eq h hcount
  obtain ⟨rfl, hfits, hlong⟩ := foldlM_put_eq hput hpos (atEnd_written h) hrest
  refine ⟨?_, ⟨?_, hfits⟩, hsmall⟩
  · have hcount : encodeInt .uint32 (BitVec.ofNat 32 l.length) =
        littleEndian 4 (l.length % 2 ^ 32) :=
      congrArg (littleEndian 4) (BitVec.toNat_ofNat l.length 32)
    rw [written_written, hcount]
    rfl
  · by_cases hnil : l = []
    · simp [hnil]
    · have := hlong hnil
      omega

end

end Containers

theorem putMap_eq {κ ν : Type} {putKey : κ → ByteBuffer → Except Failure ByteBuffer}
    {putValue : ν → ByteBuffer → Except Failure ByteBuffer} {encodeKey : κ → List (BitVec 8)}
    {encodeValue : ν → List (BitVec 8)} {fitsKey : κ → Prop} {fitsValue : ν → Prop}
    (hkey : ∀ k (b b' : ByteBuffer), b.wpos = b.size → putKey k b = .ok b' →
      b' = b.written (encodeKey k) ∧ fitsKey k ∧ b.size < 10000000)
    (hvalue : ∀ v (b b' : ByteBuffer), b.wpos = b.size → putValue v b = .ok b' →
      b' = b.written (encodeValue v) ∧ fitsValue v ∧ b.size < 10000000)
    (hpos : ∀ k, 0 < (encodeKey k).length) {m : List (κ × ν)} {b b' : ByteBuffer}
    (h : b.wpos = b.size) (hok : putMap putKey putValue m b = .ok b') :
    b' = b.written (encodeMany (fun e => encodeKey e.1 ++ encodeValue e.2) m) ∧
      (m.length < 2 ^ 32 ∧ ∀ e ∈ m, fitsKey e.1 ∧ fitsValue e.2) ∧ b.size < 10000000 := by
  have hentry : ∀ (e : κ × ν) (b b' : ByteBuffer), b.wpos = b.size →
      (putKey e.1 b >>= putValue e.2) = .ok b' →
        b' = b.written (encodeKey e.1 ++ encodeValue e.2) ∧ (fitsKey e.1 ∧ fitsValue e.2) ∧
          b.size < 10000000 := by
    intro e b b' h hok
    obtain ⟨b₁, hfirst, hlast⟩ := bind_eq_ok.mp hok
    obtain ⟨rfl, hk, hsmall⟩ := hkey e.1 b b₁ h hfirst
    obtain ⟨rfl, hv, -⟩ := hvalue e.2 _ b' (atEnd_written h) hlast
    exact ⟨written_written _ _, ⟨hk, hv⟩, hsmall⟩
  have hlength : ∀ e : κ × ν, 0 < (encodeKey e.1 ++ encodeValue e.2).length := by
    intro e
    rw [List.length_append]
    exact Nat.add_pos_left (hpos e.1) _
  exact putMany_eq hentry hlength h hok

theorem Ty.put_eq (t : Ty) : ∀ (value : t.denote) (b b' : ByteBuffer), b.wpos = b.size →
    t.put value b = .ok b' →
      b' = b.written (t.encode value) ∧ t.Fits value ∧ b.size < 10000000 := by
  induction t with
  | bool =>
    intro value b b' h hok
    obtain ⟨heq, hsmall⟩ := putBool_eq h hok
    exact ⟨heq, trivial, hsmall⟩
  | int i =>
    intro value b b' h hok
    obtain ⟨heq, hsmall⟩ := putInt_eq h hok
    exact ⟨heq, trivial, hsmall⟩
  | string =>
    intro value b b' h hok
    obtain ⟨heq, hsmall⟩ := putString_eq h hok
    exact ⟨heq, trivial, hsmall⟩
  | vector element ih => exact fun value b b' h => putMany_eq ih element.encode_length_pos h
  | list element ih => exact fun value b b' h => putMany_eq ih element.encode_length_pos h
  | map key value ihk ihv =>
    exact fun m b b' h => putMap_eq ihk ihv key.encode_length_pos h

theorem Field.put_eq (f : Field) (value : f.denote) {b b' : ByteBuffer} (h : b.wpos = b.size)
    (hok : f.put value b = .ok b') : b' = b.written (f.encode value) ∧ f.Fits value := by
  cases f with
  | plain t =>
    obtain ⟨heq, hfits, -⟩ := t.put_eq value b b' h hok
    exact ⟨heq, hfits⟩
  | packGUID =>
    obtain ⟨heq, -⟩ := append_eq (l := encodeGUID value) h hok
    exact ⟨heq, trivial⟩

/-- The bytes of a row of values. -/
def encodeAll (values : List Value) : List (BitVec 8) :=
  values.flatMap fun value => value.1.encode value.2

theorem writeAll_eq {values : List Value} {b b' : ByteBuffer} (h : b.wpos = b.size)
    (hok : writeAll values b = .ok b') :
    b' = b.written (encodeAll values) ∧ ∀ value ∈ values, value.1.Fits value.2 := by
  induction values generalizing b with
  | nil =>
    obtain rfl := Except.ok.inj hok
    exact ⟨written_nil.symm, by simp⟩
  | cons value values ih =>
    obtain ⟨b₁, hfirst, hrest⟩ := bind_eq_ok.mp hok
    obtain ⟨rfl, hvalue⟩ := value.1.put_eq value.2 h hfirst
    obtain ⟨rfl, hvalues⟩ := ih (atEnd_written h) hrest
    exact ⟨written_written _ _, List.forall_mem_cons.mpr ⟨hvalue, hvalues⟩⟩

end Writers

/-! ## Reading -/

namespace ByteBuffer

variable {b : ByteBuffer} {l r : List (BitVec 8)}

/-- What is left to be read. -/
def rest (b : ByteBuffer) : List (BitVec 8) := b.storage.drop b.rpos

/-- The buffer after some bytes were read. -/
def advance (b : ByteBuffer) (n : ℕ) : ByteBuffer := { b with rpos := b.rpos + n }

@[simp] theorem advance_zero : b.advance 0 = b := rfl

theorem advance_advance (n k : ℕ) : (b.advance n).advance k = b.advance (n + k) := by
  simp [advance, Nat.add_assoc]

theorem rest_advance (n : ℕ) : (b.advance n).rest = b.rest.drop n := by
  rw [rest, rest, List.drop_drop]
  rfl

theorem rest_advance_of_rest (h : b.rest = l ++ r) : (b.advance l.length).rest = r := by
  rw [rest_advance, h, List.drop_left]

/-- **Bytes that are left can be read.** -/
theorem read_eq (h : b.rest = l ++ r) (hl : 0 < l.length) :
    b.read l.length = .ok (fromLittleEndian l, b.advance l.length) := by
  have hlength : b.size - b.rpos = l.length + r.length := by
    rw [← List.length_append, ← h, rest, List.length_drop]
    rfl
  have htake : (b.storage.drop b.rpos).take l.length = l := by
    change b.rest.take l.length = l
    rw [h, List.take_left]
  rw [read, if_neg (by omega), htake]
  rfl

end ByteBuffer

section Readers

open ByteBuffer

variable {α : Type} {get : ByteBuffer → Except Failure (α × ByteBuffer)}

/-- **The reader takes the bytes for the value**, whatever follows them. -/
def Reads (get : ByteBuffer → Except Failure (α × ByteBuffer)) (value : α)
    (bytes : List (BitVec 8)) : Prop :=
  ∀ (b : ByteBuffer) (r : List (BitVec 8)), b.rest = bytes ++ r →
    get b = .ok (value, b.advance bytes.length)

theorem pow_size (n : ℕ) : 256 ^ n = 2 ^ (8 * n) := by
  rw [Nat.pow_mul]

theorem Reads.bind {β : Type} {f : α × ByteBuffer → Except Failure (β × ByteBuffer)} {x : α}
    {y : β} {bytes bytes' : List (BitVec 8)} (hget : Reads get x bytes)
    (hf : Reads (fun b => f (x, b)) y bytes') :
    Reads (fun b => get b >>= f) y (bytes ++ bytes') := by
  intro b r h
  rw [List.append_assoc] at h
  have hrest := hf (b.advance bytes.length) r (rest_advance_of_rest h)
  have hfirst := hget b _ h
  rw [advance_advance, ← List.length_append] at hrest
  change (get b >>= f) = _
  rw [hfirst]
  exact hrest

theorem Reads.map {β : Type} (f : α → β) {x : α} {bytes : List (BitVec 8)}
    (hget : Reads get x bytes) :
    Reads (fun b => get b >>= fun p => .ok (f p.1, p.2)) (f x) bytes := by
  intro b r h
  change (get b >>= _) = _
  rw [hget b r h]
  rfl

theorem reads_byte (c : BitVec 8) : Reads (fun b => b.read 1) c.toNat [c] := fun _ _ h =>
  read_eq h Nat.one_pos

theorem reads_getInt (i : IntTy) (value : BitVec (8 * i.size)) :
    Reads (getInt i) value (encodeInt i value) := by
  intro b r h
  have hlength : (encodeInt i value).length = i.size := length_littleEndian _ _
  have hread : b.read i.size = .ok (fromLittleEndian (encodeInt i value), b.advance i.size) := by
    rw [← hlength]
    exact read_eq h (by rw [hlength]; exact i.size_pos)
  have hvalue : BitVec.ofNat (8 * i.size) (fromLittleEndian (encodeInt i value)) = value := by
    rw [encodeInt, fromLittleEndian_littleEndian, pow_size, Nat.mod_eq_of_lt value.isLt,
      BitVec.ofNat_toNat, BitVec.setWidth_eq]
  rw [hlength, getInt, hread]
  change Except.ok (BitVec.ofNat (8 * i.size) (fromLittleEndian (encodeInt i value)), _) = _
  rw [hvalue]

/-! ### Strings -/

theorem lt_size_of_rest {b : ByteBuffer} {c : BitVec 8} {r : List (BitVec 8)}
    (h : b.rest = c :: r) : b.rpos < b.size := by
  by_contra hge
  have hnil : b.rest = [] := List.drop_of_length_le (Nat.not_lt.mp hge)
  rw [h] at hnil
  cases hnil

theorem stringLoop_eq {s : List (BitVec 8)} (hs : NoZero s) {left : ℕ} {b : ByteBuffer}
    {r value : List (BitVec 8)} (h : b.rest = encodeString s ++ r) (hleft : s.length < left) :
    stringLoop left b value = .ok (value ++ s, b.advance (encodeString s).length) := by
  induction s generalizing left b value with
  | nil =>
    obtain ⟨left, rfl⟩ : ∃ n, left = n + 1 := ⟨left - 1, by omega⟩
    have hread : b.read 1 = .ok (0, b.advance 1) := reads_byte 0 b r h
    rw [stringLoop, if_pos (lt_size_of_rest h), hread, List.append_nil]
    rfl
  | cons c s ih =>
    obtain ⟨left, rfl⟩ : ∃ n, left = n + 1 := ⟨left - 1, by omega⟩
    have hread : b.read 1 = .ok (c.toNat, b.advance 1) := reads_byte c b _ h
    obtain ⟨hc, hs⟩ : c ≠ 0 ∧ NoZero s := by
      rw [NoZero, List.mem_cons, not_or] at hs
      exact ⟨Ne.symm hs.1, hs.2⟩
    have hzero : c.toNat ≠ 0 := fun hzero => hc (BitVec.eq_of_toNat_eq hzero)
    have hrest : (b.advance 1).rest = encodeString s ++ r := by
      rw [rest_advance, h]
      rfl
    have hloop : stringLoop left (b.advance 1) (value ++ [c]) =
        .ok (value ++ [c] ++ s, (b.advance 1).advance (encodeString s).length) :=
      ih hs hrest (by simpa using hleft)
    rw [stringLoop, if_pos (lt_size_of_rest h), hread]
    change (if c.toNat = 0 then _ else stringLoop left (b.advance 1)
      (value ++ [BitVec.ofNat 8 c.toNat])) = _
    rw [if_neg hzero, BitVec.ofNat_toNat, BitVec.setWidth_eq, hloop, advance_advance]
    simp [encodeString, Nat.add_comm]

theorem reads_getString {s : List (BitVec 8)} (hs : NoZero s) :
    Reads getString s (encodeString s) := by
  intro b r h
  have hleft : s.length < b.size - b.rpos := by
    have hlength : b.size - b.rpos = (encodeString s).length + r.length := by
      rw [← List.length_append, ← h, rest, List.length_drop]
      rfl
    rw [hlength, length_encodeString]
    omega
  exact stringLoop_eq hs h hleft

/-! ### Containers -/

variable {encode : α → List (BitVec 8)}

theorem reads_getElements {l : List α} (hget : ∀ x ∈ l, Reads get x (encode x)) :
    Reads (getElements get l.length) l (l.flatMap encode) := by
  induction l with
  | nil => exact fun b r _ => rfl
  | cons x l ih =>
    have hrest := (ih fun y hy => hget y (List.mem_cons_of_mem x hy)).map (x :: ·)
    exact (hget x List.mem_cons_self).bind hrest

theorem reads_count (n : ℕ) :
    Reads (getInt .uint32) (BitVec.ofNat 32 n) (littleEndian 4 (n % 2 ^ 32)) := by
  have hcount : encodeInt .uint32 (BitVec.ofNat 32 n) = littleEndian 4 (n % 2 ^ 32) :=
    congrArg (littleEndian 4) (BitVec.toNat_ofNat n 32)
  rw [← hcount]
  exact reads_getInt .uint32 _

theorem reads_getMany {l : List α} (hfits : l.length < 2 ^ 32)
    (hget : ∀ x ∈ l, Reads get x (encode x)) : Reads (getMany get) l (encodeMany encode l) := by
  have helements :
      Reads (getElements get (BitVec.ofNat 32 l.length).toNat) l (l.flatMap encode) := by
    rw [BitVec.toNat_ofNat, Nat.mod_eq_of_lt hfits]
    exact reads_getElements hget
  exact (reads_count _).bind helements

section Maps

variable {κ ν : Type} {before : κ → κ → Bool}
  {getKey : ByteBuffer → Except Failure (κ × ByteBuffer)}
  {getValue : ByteBuffer → Except Failure (ν × ByteBuffer)} {encodeKey : κ → List (BitVec 8)}
  {encodeValue : ν → List (BitVec 8)}

theorem insertEntry_eq {m : List (κ × ν)} {k : κ} (h : ∀ e ∈ m, before e.1 k = true) (v : ν) :
    insertEntry before k v m = m ++ [(k, v)] := by
  induction m with
  | nil => rfl
  | cons e m ih =>
    rw [List.forall_mem_cons] at h
    rw [insertEntry, if_pos h.1, ih h.2]
    rfl

theorem reads_getEntries {l m : List (κ × ν)}
    (hsorted : (m ++ l).Pairwise fun e e' => before e.1 e'.1 = true)
    (hkey : ∀ e ∈ l, Reads getKey e.1 (encodeKey e.1))
    (hvalue : ∀ e ∈ l, Reads getValue e.2 (encodeValue e.2)) :
    Reads (getEntries before getKey getValue l.length m) (m ++ l)
      (l.flatMap fun e => encodeKey e.1 ++ encodeValue e.2) := by
  induction l generalizing m with
  | nil =>
    intro b r _
    rw [List.append_nil]
    rfl
  | cons e l ih =>
    have hlast : insertEntry before e.1 e.2 m = m ++ [e] :=
      insertEntry_eq (fun e' he' => List.pairwise_append.mp hsorted |>.2.2 e' he' e (by simp)) e.2
    have hrest : Reads (getEntries before getKey getValue l.length (insertEntry before e.1 e.2 m))
        (m ++ e :: l) (l.flatMap fun e => encodeKey e.1 ++ encodeValue e.2) := by
      have happend : m ++ e :: l = m ++ [e] ++ l := by simp
      rw [happend] at hsorted ⊢
      rw [hlast]
      exact ih hsorted (fun e' he' => hkey e' (List.mem_cons_of_mem e he'))
        fun e' he' => hvalue e' (List.mem_cons_of_mem e he')
    rw [List.flatMap_cons, List.append_assoc]
    exact (hkey e List.mem_cons_self).bind ((hvalue e List.mem_cons_self).bind hrest)

theorem reads_getMap {m : List (κ × ν)} (hfits : m.length < 2 ^ 32)
    (hsorted : m.Pairwise fun e e' => before e.1 e'.1 = true)
    (hkey : ∀ e ∈ m, Reads getKey e.1 (encodeKey e.1))
    (hvalue : ∀ e ∈ m, Reads getValue e.2 (encodeValue e.2)) :
    Reads (getMap before getKey getValue) m
      (encodeMany (fun e => encodeKey e.1 ++ encodeValue e.2) m) := by
  have hentries : Reads (getEntries before getKey getValue (BitVec.ofNat 32 m.length).toNat []) m
      (m.flatMap fun e => encodeKey e.1 ++ encodeValue e.2) := by
    rw [BitVec.toNat_ofNat, Nat.mod_eq_of_lt hfits]
    exact reads_getEntries (m := []) hsorted hkey hvalue
  exact (reads_count _).bind hentries

end Maps

theorem Ty.get_encode (t : Ty) : ∀ value : t.denote, t.WF value → t.Fits value →
    t.boolFree value = true → Reads t.get value (t.encode value) := by
  induction t with
  | bool => exact fun _ _ _ hfree => absurd hfree (by simp [boolFree])
  | int i => exact fun value _ _ _ => reads_getInt i value
  | string => exact fun value hwf _ _ => reads_getString hwf
  | vector element ih =>
    intro value hwf hfits hfree
    exact reads_getMany hfits.1 fun x hx =>
      ih x (hwf x hx) (hfits.2 x hx) (List.all_eq_true.mp hfree x hx)
  | list element ih =>
    intro value hwf hfits hfree
    exact reads_getMany hfits.1 fun x hx =>
      ih x (hwf x hx) (hfits.2 x hx) (List.all_eq_true.mp hfree x hx)
  | map key value ihk ihv =>
    intro m hwf hfits hfree
    refine reads_getMap hfits.1 hwf.2 (fun e he => ?_) fun e he => ?_
    · have hboth := Bool.and_eq_true_iff.mp (List.all_eq_true.mp hfree e he)
      exact ihk e.1 (hwf.1 e he).1 (hfits.2 e he).1 hboth.1
    · have hboth := Bool.and_eq_true_iff.mp (List.all_eq_true.mp hfree e he)
      exact ihv e.2 (hwf.1 e he).2 (hfits.2 e he).2 hboth.2

end Readers

end TeraCore.Packets
