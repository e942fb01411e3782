import TeraCore.Packets.RoundTrip

/-!
# Packed GUIDs

A GUID goes over the wire without its zero bytes: a mask says which bytes follow.  The writer shifts
the GUID down, byte by byte, and stops when nothing is left of it; the reader goes through all eight
bits of the mask.

## Main results

* `reads_readPackGUID`: the GUID is read back, wherever its zero bytes are
-/

namespace TeraCore.Packets

open Commons ByteBuffer

/-! ## Bits and bytes -/

theorem getLsbD_bit {i : ℕ} (k : ℕ) (hi : i < 8) : (1#8 <<< i).getLsbD k = decide (k = i) := by
  rw [BitVec.getLsbD_shiftLeft, BitVec.getLsbD_one]
  rcases Nat.lt_trichotomy k i with hlt | rfl | hgt
  · simp [hlt, hlt.ne]
  · simp [hi]
  · have hpos : k - i ≠ 0 := by omega
    simp [hpos, hgt.ne']

theorem and_bit_ne_zero {mark : BitVec 8} {i : ℕ} (hi : i < 8) :
    mark &&& 1#8 <<< i ≠ 0 ↔ mark.getLsbD i = true := by
  constructor
  · intro hne
    by_contra hbit
    have hfalse : mark.getLsbD i = false := by simpa using hbit
    refine hne (BitVec.eq_of_getLsbD_eq fun k hk => ?_)
    rw [BitVec.getLsbD_and, getLsbD_bit k hi]
    by_cases hki : k = i
    · rw [hki, hfalse]
      simp
    · simp [hki]
  · intro hbit hzero
    have hfalse := congrArg (fun x => BitVec.getLsbD x i) hzero
    simp only [BitVec.getLsbD_and, getLsbD_bit i hi, hbit] at hfalse
    simp at hfalse

theorem getLsbD_low (g : BitVec 64) (j : ℕ) :
    (BitVec.ofNat 64 ((g &&& 0xFF).setWidth 8).toNat).getLsbD j =
      (decide (j < 8) && g.getLsbD j) := by
  have hmask : (0xFF : BitVec 64).getLsbD j = decide (j < 8) := by
    rcases Nat.lt_or_ge j 64 with hlt | hge
    · have hall : ∀ k : Fin 64, (0xFF : BitVec 64).getLsbD k = decide (k.val < 8) := by decide
      exact hall ⟨j, hlt⟩
    · rw [BitVec.getLsbD_of_ge _ _ hge]
      have : ¬ j < 8 := by omega
      simp [this]
  rw [BitVec.ofNat_toNat, BitVec.getLsbD_setWidth, BitVec.getLsbD_setWidth, BitVec.getLsbD_and,
    hmask]
  rcases Nat.lt_or_ge j 8 with hlt | hge
  · have : j < 64 := by omega
    simp [hlt, this]
  · simp [Nat.not_lt.mpr hge]

theorem low_byte_or (g : BitVec 64) (i : ℕ) :
    BitVec.ofNat 64 ((g &&& 0xFF).setWidth 8).toNat <<< (i * 8) ||| (g >>> 8) <<< (8 * (i + 1)) =
      g <<< (8 * i) := by
  refine BitVec.eq_of_getLsbD_eq fun k hk => ?_
  rw [BitVec.getLsbD_or, BitVec.getLsbD_shiftLeft, BitVec.getLsbD_shiftLeft,
    BitVec.getLsbD_shiftLeft, getLsbD_low, BitVec.getLsbD_ushiftRight, Nat.mul_comm i 8]
  rcases Nat.lt_or_ge k (8 * i) with hlt | hge
  · have h2 : k < 8 * (i + 1) := by omega
    simp [hlt, h2]
  · rcases Nat.lt_or_ge k (8 * (i + 1)) with hlow | hhigh
    · have h2 : k - 8 * i < 8 := by omega
      simp [hlow, h2, Nat.not_lt.mpr hge]
    · have h1 : ¬ k - 8 * i < 8 := by omega
      have h2 : 8 + (k - 8 * (i + 1)) = k - 8 * i := by omega
      simp [h1, h2, Nat.not_lt.mpr hge, Nat.not_lt.mpr hhigh]

/-! ## The loops -/

theorem getLsbD_packLoop {k : ℕ} (left : ℕ) : ∀ (i : ℕ) (guid : BitVec 64) (mark : BitVec 8)
    (bytes : List (BitVec 8)), k < i → left + i = 8 →
      (packLoop left i guid mark bytes).1.getLsbD k = mark.getLsbD k := by
  induction left with
  | zero => exact fun _ _ _ _ _ _ => rfl
  | succ left ih =>
    intro i guid mark bytes hk hleft
    rw [packLoop]
    split_ifs
    · rfl
    · rw [ih _ _ _ _ (by omega) (by omega), BitVec.getLsbD_or, getLsbD_bit k (by omega)]
      simp [hk.ne]
    · exact ih _ _ _ _ (by omega) (by omega)

theorem unpackLoop_eq_of_not {mark : BitVec 8} (left : ℕ) : ∀ (i : ℕ) (acc : BitVec 64)
    (b : ByteBuffer), left + i = 8 → (∀ k, i ≤ k → mark.getLsbD k = false) →
      unpackLoop mark left i acc b = .ok (acc, b) := by
  induction left with
  | zero => exact fun _ _ _ _ _ => rfl
  | succ left ih =>
    intro i acc b hleft hmark
    have hbit : ¬ mark &&& 1#8 <<< i ≠ 0 := by
      rw [and_bit_ne_zero (by omega), hmark i le_rfl]
      simp
    rw [unpackLoop, if_neg hbit]
    exact ih _ _ _ (by omega) fun k hk => hmark k (by omega)

/-- **The reader's loop follows the writer's**: the same bytes, from the `i`th on. -/
theorem reads_unpackLoop (left : ℕ) : ∀ (i : ℕ) (g : BitVec 64) (mark : BitVec 8)
    (bytes : List (BitVec 8)) (acc : BitVec 64), left + i = 8 → g.toNat < 256 ^ left →
    (∀ k, i ≤ k → mark.getLsbD k = false) →
    ∃ t, (packLoop left i g mark bytes).2 = bytes ++ t ∧
      Reads (unpackLoop (packLoop left i g mark bytes).1 left i acc) (acc ||| g <<< (8 * i)) t := by
  induction left with
  | zero =>
    intro i g mark bytes acc _ hg _
    obtain rfl : g = 0 := BitVec.eq_of_toNat_eq (by simpa using hg)
    refine ⟨[], by simp [packLoop], fun b r _ => ?_⟩
    simp [unpackLoop]
  | succ left ih =>
    intro i g mark bytes acc hleft hg hmark
    have hshift : (g >>> 8).toNat < 256 ^ left := by
      rw [BitVec.toNat_ushiftRight, Nat.shiftRight_eq_div_pow]
      exact Nat.div_lt_of_lt_mul (by rw [Nat.pow_succ] at hg; omega)
    rw [packLoop]
    split_ifs with hzero hlow
    · subst hzero
      have hacc : acc ||| (0 : BitVec 64) <<< (8 * i) = acc := by simp
      refine ⟨[], by simp, fun b r _ => ?_⟩
      rw [hacc]
      exact unpackLoop_eq_of_not _ _ _ _ hleft hmark
    · -- the byte is announced, and follows
      have hmark' : ∀ k, i + 1 ≤ k → (mark ||| 1#8 <<< i).getLsbD k = false := by
        intro k hk
        rw [BitVec.getLsbD_or, getLsbD_bit k (by omega), hmark k (by omega)]
        simp
        omega
      obtain ⟨t, htail, hreads⟩ := ih (i + 1) (g >>> 8) (mark ||| 1#8 <<< i)
        (bytes ++ [(g &&& 0xFF).setWidth 8])
        (acc ||| BitVec.ofNat 64 ((g &&& 0xFF).setWidth 8).toNat <<< (i * 8)) (by omega) hshift
        hmark'
      refine ⟨(g &&& 0xFF).setWidth 8 :: t, by rw [htail]; simp, ?_⟩
      have hbit : (packLoop left (i + 1) (g >>> 8) (mark ||| 1#8 <<< i)
          (bytes ++ [(g &&& 0xFF).setWidth 8])).1 &&& 1#8 <<< i ≠ 0 := by
        rw [and_bit_ne_zero (by omega), getLsbD_packLoop _ _ _ _ _ (by omega) (by omega),
          BitVec.getLsbD_or, getLsbD_bit i (by omega)]
        simp
      rw [BitVec.or_assoc, low_byte_or] at hreads
      have hboth := (reads_byte ((g &&& 0xFF).setWidth 8)).bind
        (f := fun p => unpackLoop _ left (i + 1) (acc ||| BitVec.ofNat 64 p.1 <<< (i * 8)) p.2)
        hreads
      intro b r h
      rw [unpackLoop, if_pos hbit]
      exact hboth b r h
    · -- a zero byte is left out
      obtain ⟨t, htail, hreads⟩ := ih (i + 1) (g >>> 8) mark bytes acc (by omega) hshift
        fun k hk => hmark k (by omega)
      refine ⟨t, htail, ?_⟩
      have hbit : ¬ (packLoop left (i + 1) (g >>> 8) mark bytes).1 &&& 1#8 <<< i ≠ 0 := by
        rw [and_bit_ne_zero (by omega), getLsbD_packLoop _ _ _ _ _ (by omega) (by omega),
          hmark i le_rfl]
        simp
      have hg' : (g >>> 8) <<< (8 * (i + 1)) = g <<< (8 * i) := by
        have hsame := low_byte_or g i
        rw [Decidable.not_not.mp hlow] at hsame
        simpa using hsame
      rw [hg'] at hreads
      intro b r h
      rw [unpackLoop, if_neg hbit]
      exact hreads b r h

theorem reads_readPackGUID (guid : BitVec 64) : Reads readPackGUID guid (encodeGUID guid) := by
  obtain ⟨t, htail, hreads⟩ := reads_unpackLoop 8 0 guid 0 [] 0 rfl guid.isLt (by simp)
  have hvalue : (0 : BitVec 64) ||| guid <<< (8 * 0) = guid := by simp
  rw [List.nil_append] at htail
  rw [hvalue, ← htail] at hreads
  have hmark : ∀ mark : BitVec 8, BitVec.ofNat 8 mark.toNat = mark := fun mark => by simp
  rw [← hmark (packLoop 8 0 guid 0 []).1] at hreads
  exact (reads_byte _).bind hreads

end TeraCore.Packets
