import TeraCore.Packets.PackedGUID

/-!
# Byte buffers: truth values

A row of values comes back when there is no truth value in it.  Behind a truth value the reader is
three zero bytes behind, and it stays behind: what it reads next begins with a zero, so that it can
only be zero, empty or false if it is what was written, and takes no more of the zeros than it puts
behind them.

A map that is read out of step can swallow any number of bytes, for keys that it has already; the
rows for which truth values are shown to be fatal have no maps.

## Main results

* `readAll_encodeAll`: a row without truth values is read back
* `readAll_slips`: behind a truth value there are bytes left over
* `roundTrips_boolFree`: when the values come back
* `not_prefix_of_ne`: no row without truth values begins another
-/

namespace TeraCore.Packets

open Commons ByteBuffer

/-! ## Rows without truth values -/

theorem Field.get_encode (f : Field) (value : f.denote) (hwf : f.WF value) (hfits : f.Fits value)
    (hfree : f.boolFree value = true) : Reads f.get value (f.encode value) := by
  cases f with
  | plain t => exact t.get_encode value hwf hfits hfree
  | packGUID => exact reads_readPackGUID value

/-- **A row without truth values** is read back. -/
theorem readAll_encodeAll {values : List Value} (hwf : ∀ value ∈ values, value.1.WF value.2)
    (hfits : ∀ value ∈ values, value.1.Fits value.2)
    (hfree : ∀ value ∈ values, value.1.boolFree value.2 = true) :
    Reads (readAll (values.map (·.1))) values (encodeAll values) := by
  induction values with
  | nil => exact fun b r _ => rfl
  | cons value values ih =>
    rw [List.forall_mem_cons] at hwf hfits hfree
    have hrest := (ih hwf.2 hfits.2 hfree.2).map (value :: ·)
    exact (value.1.get_encode value.2 hwf.1 hfits.1 hfree.1).bind hrest

/-! ## Falling behind -/

section Slips

variable {α : Type} {get : ByteBuffer → Except Failure (α × ByteBuffer)}

/-- **The reader takes the bytes for the value, or falls behind**: with some zeros in front of the
bytes, it leaves some; it leaves none only if there were none, and the value is free of what makes
it fall behind. -/
def Slips (get : ByteBuffer → Except Failure (α × ByteBuffer)) (value : α)
    (bytes : List (BitVec 8)) (free : Prop) : Prop :=
  ∀ (b b' : ByteBuffer) (k : ℕ) (r : List (BitVec 8)),
    b.rest = List.replicate k 0 ++ bytes ++ r → get b = .ok (value, b') →
      ∃ k', b'.rest = List.replicate k' 0 ++ r ∧ (k' = 0 → k = 0 ∧ free)

theorem read_eq_ok {b b' : ByteBuffer} {n x : ℕ} (h : b.read n = .ok (x, b')) :
    x = fromLittleEndian (b.rest.take n) ∧ b' = b.advance n := by
  unfold ByteBuffer.read at h
  split_ifs at h with hout
  cases h
  exact ⟨rfl, rfl⟩

theorem drop_zeros {k n : ℕ} {r : List (BitVec 8)} :
    (List.replicate k 0 ++ List.replicate n 0 ++ r).drop n = List.replicate k 0 ++ r := by
  rw [List.replicate_append_replicate, Nat.add_comm, ← List.replicate_append_replicate,
    List.append_assoc]
  exact List.drop_left' (List.length_replicate ..)

/-- A reader that takes one zero byte for some value takes it for that value, too, when it is
behind. -/
theorem Reads.slips {x value : α} {bytes : List (BitVec 8)} (hzero : Reads get x [0])
    (hget : Reads get value bytes) (hbytes : value = x → bytes = [0]) :
    Slips get value bytes True := by
  intro b b' k r h hok
  cases k with
  | zero =>
    rw [hget b r h] at hok
    cases hok
    exact ⟨0, rest_advance_of_rest h, fun _ => ⟨rfl, trivial⟩⟩
  | succ k =>
    rw [hzero b (List.replicate k 0 ++ bytes ++ r) h] at hok
    cases hok
    rw [hbytes rfl] at h
    refine ⟨k + 1, ?_, fun hne => absurd hne (Nat.succ_ne_zero k)⟩
    rw [rest_advance, h]
    exact drop_zeros (n := 1)

theorem slips_getInt (i : IntTy) (value : BitVec (8 * i.size)) :
    Slips (getInt i) value (encodeInt i value) True := by
  intro b b' k r h hok
  rcases Nat.eq_zero_or_pos k with rfl | hk
  · rw [reads_getInt i value b r h] at hok
    cases hok
    exact ⟨0, rest_advance_of_rest h, fun _ => ⟨rfl, trivial⟩⟩
  · obtain ⟨⟨x, b₁⟩, hread, hlast⟩ := bind_eq_ok.mp hok
    obtain ⟨hx, rfl⟩ := read_eq_ok hread
    cases hlast
    have hbound : x < 256 ^ i.size := by
      refine hx ▸ (fromLittleEndian_lt _).trans_le (Nat.pow_le_pow_right (by decide) ?_)
      exact List.length_take_le _ _
    have hvalue : (BitVec.ofNat (8 * i.size) x).toNat = x := by
      rw [BitVec.toNat_ofNat, ← pow_size, Nat.mod_eq_of_lt hbound]
    -- what is read a little early is what was written only if it is zero
    have hzero : x = 0 := by
      rw [encodeInt, hvalue] at h
      rw [h] at hx
      exact eq_zero_of_shifted hbound hk hx.symm
    rw [encodeInt, hvalue, hzero, littleEndian_zero] at h
    refine ⟨k, ?_, fun hne => absurd hne hk.ne'⟩
    rw [rest_advance, h]
    exact drop_zeros

/-- **A truth value** is written as four bytes, and read as one. -/
theorem slips_getBool (value : Bool) : Slips getBool value (encodeBool value) False := by
  intro b b' k r h hok
  obtain ⟨⟨x, b₁⟩, hread, hlast⟩ := bind_eq_ok.mp hok
  obtain ⟨hx, rfl⟩ := read_eq_ok hread
  cases k with
  | zero =>
    cases hlast
    refine ⟨3, ?_, nofun⟩
    have hbytes : (encodeBool (decide (0 < (BitVec.ofNat 8 x).toInt))).drop 1 =
        List.replicate 3 0 := by
      cases decide (0 < (BitVec.ofNat 8 x).toInt) <;> rfl
    rw [rest_advance, h, List.replicate_zero, List.nil_append, List.drop_append_of_le_length,
      hbytes]
    exact Nat.le_add_left 1 3
  | succ k =>
    have hzero : x = 0 := by rw [hx, h]; rfl
    subst hzero
    cases hlast
    have hbytes : encodeBool (decide (0 < (BitVec.ofNat 8 0).toInt)) = List.replicate 4 0 := rfl
    refine ⟨k + 4, ?_, nofun⟩
    rw [rest_advance, h, hbytes, List.replicate_append_replicate]
    rfl

/-! ### Containers -/

theorem length_of_getElements {n : ℕ} {l : List α} {b b' : ByteBuffer}
    (h : getElements get n b = .ok (l, b')) : l.length = n := by
  induction n generalizing l b b' with
  | zero =>
    cases h
    rfl
  | succ n ih =>
    obtain ⟨⟨x, b₁⟩, -, hrest⟩ := bind_eq_ok.mp h
    obtain ⟨⟨l', b₂⟩, hl, hlast⟩ := bind_eq_ok.mp hrest
    cases hlast
    rw [List.length_cons, ih hl]

variable {encode : α → List (BitVec 8)} {free : α → Prop}

theorem slips_getElements {l : List α} (hget : ∀ x ∈ l, Slips get x (encode x) (free x)) :
    Slips (getElements get l.length) l (l.flatMap encode) (∀ x ∈ l, free x) := by
  induction l with
  | nil =>
    intro b b' k r h hok
    cases hok
    refine ⟨k, by simpa using h, fun hk => ⟨hk, by simp⟩⟩
  | cons x l ih =>
    intro b b' k r h hok
    rw [List.forall_mem_cons] at hget
    obtain ⟨⟨x', b₁⟩, hfirst, hrest⟩ := bind_eq_ok.mp hok
    obtain ⟨⟨l', b₂⟩, hl, hlast⟩ := bind_eq_ok.mp hrest
    cases hlast
    obtain ⟨k₁, h₁, hx⟩ := hget.1 b b₁ k (l.flatMap encode ++ r) (by simpa using h) hfirst
    obtain ⟨k₂, h₂, hrest⟩ := ih hget.2 b₁ b' k₁ r (by simpa using h₁) hl
    refine ⟨k₂, h₂, fun hk => ?_⟩
    obtain ⟨hk₁, hl⟩ := hrest hk
    exact ⟨(hx hk₁).1, List.forall_mem_cons.mpr ⟨(hx hk₁).2, hl⟩⟩

theorem slips_getMany {l : List α} (hfits : l.length < 2 ^ 32)
    (hget : ∀ x ∈ l, Slips get x (encode x) (free x)) :
    Slips (getMany get) l (encodeMany encode l) (∀ x ∈ l, free x) := by
  intro b b' k r h hok
  obtain ⟨⟨size, b₁⟩, hcount, helements⟩ := bind_eq_ok.mp hok
  have hsize : size.toNat = l.length := (length_of_getElements helements).symm
  have hbytes : encodeInt .uint32 size = littleEndian 4 (l.length % 2 ^ 32) := by
    rw [encodeInt, hsize, Nat.mod_eq_of_lt hfits]
    rfl
  obtain ⟨k₁, h₁, hfirst⟩ := slips_getInt .uint32 size b b₁ k (l.flatMap encode ++ r)
    (by rw [h, hbytes]; simp [encodeMany]) hcount
  change getElements get size.toNat b₁ = _ at helements
  rw [hsize] at helements
  obtain ⟨k₂, h₂, hrest⟩ := slips_getElements hget b₁ b' k₁ r (by simpa using h₁) helements
  refine ⟨k₂, h₂, fun hk => ?_⟩
  obtain ⟨hk₁, hl⟩ := hrest hk
  exact ⟨(hfirst hk₁).1, hl⟩

theorem Slips.weaken {value : α} {bytes : List (BitVec 8)} {free free' : Prop}
    (h : Slips get value bytes free) (himp : free → free') : Slips get value bytes free' := by
  intro b b' k r hrest hok
  obtain ⟨k', hrest', hzero⟩ := h b b' k r hrest hok
  exact ⟨k', hrest', fun hk => ⟨(hzero hk).1, himp (hzero hk).2⟩⟩

end Slips

/-- **A value without maps**: its bytes are taken, or the reader falls behind. -/
theorem Ty.slips (t : Ty) (hmap : t.mapFree = true) : ∀ value : t.denote, t.WF value →
    t.Fits value → Slips t.get value (t.encode value) (t.boolFree value = true) := by
  induction t with
  | bool => exact fun value _ _ => (slips_getBool value).weaken False.elim
  | int i => exact fun value _ _ => (slips_getInt i value).weaken fun _ => rfl
  | string =>
    intro value hwf _
    have hzero : Reads getString [] [0] := reads_getString (by simp [NoZero])
    refine (hzero.slips (reads_getString hwf) fun hnil => ?_).weaken fun _ => rfl
    rw [hnil]
    rfl
  | vector element ih =>
    intro value hwf hfits
    refine (slips_getMany hfits.1 fun x hx => ih hmap x (hwf x hx) (hfits.2 x hx)).weaken ?_
    exact List.all_eq_true.mpr
  | list element ih =>
    intro value hwf hfits
    refine (slips_getMany hfits.1 fun x hx => ih hmap x (hwf x hx) (hfits.2 x hx)).weaken ?_
    exact List.all_eq_true.mpr
  | map key value => cases hmap

theorem Field.slips (f : Field) (hmap : f.mapFree = true) (value : f.denote) (hwf : f.WF value)
    (hfits : f.Fits value) : Slips f.get value (f.encode value) (f.boolFree value = true) := by
  cases f with
  | plain t => exact t.slips hmap value hwf hfits
  | packGUID =>
    have hzero : Reads readPackGUID 0 [0] := reads_readPackGUID 0
    refine (hzero.slips (reads_readPackGUID value) fun hnil => ?_).weaken fun _ => rfl
    rw [hnil]
    rfl

/-- **Behind a truth value** there are bytes left over. -/
theorem readAll_slips {values : List Value} (hmap : ∀ value ∈ values, value.1.mapFree = true)
    (hwf : ∀ value ∈ values, value.1.WF value.2) (hfits : ∀ value ∈ values, value.1.Fits value.2) :
    Slips (readAll (values.map (·.1))) values (encodeAll values)
      (∀ value ∈ values, value.1.boolFree value.2 = true) := by
  induction values with
  | nil =>
    intro b b' k r h hok
    cases hok
    exact ⟨k, by simpa [encodeAll] using h, fun hk => ⟨hk, by simp⟩⟩
  | cons value values ih =>
    intro b b' k r h hok
    rw [List.forall_mem_cons] at hmap hwf hfits
    obtain ⟨⟨x, b₁⟩, hfirst, hrest⟩ := bind_eq_ok.mp hok
    obtain ⟨⟨l, b₂⟩, hl, hlast⟩ := bind_eq_ok.mp hrest
    obtain ⟨rfl, rfl, rfl⟩ : x = value.2 ∧ l = values ∧ b₂ = b' := by
      have hsame := Except.ok.inj hlast
      simp only [Prod.mk.injEq, List.cons.injEq] at hsame
      exact ⟨eq_of_heq (Sigma.mk.inj hsame.1.1).2, hsame.1.2, hsame.2⟩
    obtain ⟨k₁, h₁, hvalue⟩ := value.1.slips hmap.1 value.2 hwf.1 hfits.1 b b₁ k (encodeAll l ++ r)
      (by simpa [encodeAll] using h) hfirst
    obtain ⟨k₂, h₂, hvalues⟩ := ih hmap.2 hwf.2 hfits.2 b₁ b₂ k₁ r (by simpa using h₁) hl
    refine ⟨k₂, h₂, fun hk => ?_⟩
    obtain ⟨hk₁, hfree⟩ := hvalues hk
    exact ⟨(hvalue hk₁).1, List.forall_mem_cons.mpr ⟨(hvalue hk₁).2, hfree⟩⟩

/-! ## The round trip -/

/-- **The values come back** from a buffer, by their types, and nothing is left over. -/
def RoundTrips (values : List Value) (b : ByteBuffer) : Prop :=
  ∃ b', readAll (values.map (·.1)) b = .ok (values, b') ∧ b'.rpos = b'.wpos ∧ b'.wpos = b'.size

/-- **Values that are written to a new buffer** come back if there is no truth value among them;
without maps, only then. -/
theorem roundTrips_boolFree {values : List Value} {b : ByteBuffer}
    (hwf : ∀ value ∈ values, value.1.WF value.2) (hok : writeAll values .empty = .ok b) :
    ((∀ value ∈ values, value.1.boolFree value.2 = true) → RoundTrips values b) ∧
      ((∀ value ∈ values, value.1.mapFree = true) → RoundTrips values b →
        ∀ value ∈ values, value.1.boolFree value.2 = true) := by
  obtain ⟨rfl, hfits⟩ := writeAll_eq rfl hok
  have hrest : (ByteBuffer.empty.written (encodeAll values)).rest = encodeAll values ++ [] :=
    (List.append_nil _).symm
  constructor
  · intro hfree
    have hread := readAll_encodeAll hwf hfits hfree _ _ hrest
    exact ⟨_, hread, rfl, by simp [ByteBuffer.advance, written, ByteBuffer.empty, size]⟩
  · rintro hmap ⟨b', hread, hpos, hend⟩
    obtain ⟨k, hleft, hfree⟩ := readAll_slips hmap hwf hfits _ b' 0 [] hrest hread
    have hnil : b'.rest = [] := List.drop_of_length_le (hpos.trans hend).ge
    rw [hnil, List.append_nil] at hleft
    exact (hfree (by simpa using hleft.symm)).2

/-- A packet, with a GUID that has zero bytes in it. -/
def sightings : List Value :=
  [⟨.packGUID, 0xF130000000001200#64⟩,
    ⟨.plain (.map (.int .uint8) (.vector .string)), [(3#8, [[0x61], []]), (7#8, [])]⟩,
    ⟨.plain (.int .int64), BitVec.ofInt 64 (-2)⟩]

theorem roundTrips_sightings : ∃ b, writeAll sightings .empty = .ok b ∧ RoundTrips sightings b := by
  have hwritten : (writeAll sightings .empty).isOk = true := by decide +kernel
  obtain ⟨b, hok⟩ : ∃ b, writeAll sightings .empty = .ok b := by
    cases hw : writeAll sightings .empty with
    | error e =>
      rw [hw] at hwritten
      cases hwritten
    | ok b => exact ⟨b, rfl⟩
  have hmap : Ty.WF (.map (.int .uint8) (.vector .string)) [(3#8, [[0x61], []]), (7#8, [])] := by
    have hwords : ∀ s ∈ ([[0x61], []] : List (List (BitVec 8))), NoZero s := by simp [NoZero]
    have hnone : ∀ s ∈ ([] : List (List (BitVec 8))), NoZero s := by simp
    refine ⟨?_, ?_⟩
    · simp only [List.forall_mem_cons]
      exact ⟨⟨trivial, hwords⟩, ⟨trivial, hnone⟩, by simp⟩
    · simp only [List.pairwise_cons, List.mem_singleton, forall_eq]
      exact ⟨rfl, by simp⟩
  have hwf : ∀ value ∈ sightings, value.1.WF value.2 := by
    simp only [sightings, List.forall_mem_cons]
    exact ⟨trivial, hmap, trivial, by simp⟩
  have hfree : ∀ value ∈ sightings, value.1.boolFree value.2 = true := by
    simp only [sightings, List.forall_mem_cons]
    exact ⟨rfl, rfl, rfl, by simp⟩
  exact ⟨b, hok, (roundTrips_boolFree hwf hok).1 hfree⟩

/-- **No row without truth values is the beginning of another** of the same types. -/
theorem not_prefix_of_ne {values values' : List Value} {b b' : ByteBuffer}
    (hwf : ∀ value ∈ values, value.1.WF value.2) (hwf' : ∀ value ∈ values', value.1.WF value.2)
    (hfree : ∀ value ∈ values, value.1.boolFree value.2 = true)
    (hfree' : ∀ value ∈ values', value.1.boolFree value.2 = true)
    (htypes : values.map (·.1) = values'.map (·.1)) (hne : values ≠ values')
    (hok : writeAll values .empty = .ok b) (hok' : writeAll values' .empty = .ok b') :
    ¬b.storage <+: b'.storage := by
  obtain ⟨rfl, hfits⟩ := writeAll_eq rfl hok
  obtain ⟨rfl, hfits'⟩ := writeAll_eq rfl hok'
  rintro ⟨r, hr⟩
  -- Both are read from the longer buffer.
  have hread := readAll_encodeAll hwf hfits hfree (written .empty (encodeAll values')) r hr.symm
  have hread' := readAll_encodeAll hwf' hfits' hfree' (written .empty (encodeAll values')) []
    (List.append_nil _).symm
  rw [htypes] at hread
  exact hne (Prod.mk.inj (Except.ok.inj (hread.symm.trans hread'))).1

theorem not_prefix_of_ne_words : ¬([0x61, 0] : List (BitVec 8)) <+: [0x61, 0x62, 0] := by
  refine @not_prefix_of_ne [⟨.plain .string, [0x61]⟩] [⟨.plain .string, [0x61, 0x62]⟩] _ _
    ?_ ?_ ?_ ?_ rfl (fun h => ?_) rfl rfl
  on_goal 5 =>
    have hsame : ([0x61] : List (BitVec 8)) = [0x61, 0x62] :=
      eq_of_heq (Sigma.mk.inj (List.cons.inj h).1).2
    exact absurd hsame (by decide)
  all_goals simp [Field.WF, Ty.WF, NoZero, Field.boolFree, Ty.boolFree]

/-- A number behind a truth value is read as zero. -/
theorem flag_then_level : ∃ (values : List Value) (b : ByteBuffer),
    (∀ value ∈ values, value.1.WF value.2) ∧ writeAll values .empty = .ok b ∧
      ¬ RoundTrips values b := by
  refine ⟨[⟨.plain .bool, true⟩, ⟨.plain (.int .uint8), 5#8⟩], ⟨0, 5, [1, 0, 0, 0, 5]⟩, ?_, rfl, ?_⟩
  · simp [Field.WF, Ty.WF]
  · rintro ⟨b', hread, -⟩
    have hzero : readAll [.plain .bool, .plain (.int .uint8)] ⟨0, 5, [1, 0, 0, 0, 5]⟩ =
        .ok ([⟨.plain .bool, true⟩, ⟨.plain (.int .uint8), 0#8⟩], ⟨2, 5, [1, 0, 0, 0, 5]⟩) := rfl
    have hsame := Except.ok.inj (hzero.symm.trans hread)
    simp only [Prod.mk.injEq, List.cons.injEq] at hsame
    have hbytes : (0#8 : BitVec 8) = 5#8 := eq_of_heq (Sigma.mk.inj hsame.1.2.1).2
    exact absurd hbytes (by decide)

end TeraCore.Packets
