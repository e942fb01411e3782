import Mathlib.Data.Nat.ModEq
import Mathlib.Tactic.Ring

/-!
# Little-endian bytes

A number as a row of bytes, the least significant one first, and back.  A row of `n` bytes holds
the numbers below `256 ^ n`.

## Main definitions

* `littleEndian n x`: the `n` lowest bytes of `x`
* `fromLittleEndian l`: the number that a row of bytes stands for

## Main results

* `fromLittleEndian_littleEndian`: the number that comes back
* `eq_zero_of_shifted`: bytes that are read a little early, from a run of zeros in front of them,
  stand for the same number only if it is zero
-/

namespace Commons

/-- The `n` lowest bytes of a number, the least significant one first. -/
def littleEndian : ℕ → ℕ → List (BitVec 8)
  | 0, _ => []
  | n + 1, x => BitVec.ofNat 8 x :: littleEndian n (x / 256)

/-- The number that a row of bytes stands for. -/
def fromLittleEndian : List (BitVec 8) → ℕ
  | [] => 0
  | b :: l => b.toNat + 256 * fromLittleEndian l

@[simp] theorem length_littleEndian (n x : ℕ) : (littleEndian n x).length = n := by
  induction n generalizing x with
  | zero => rfl
  | succ n ih => rw [littleEndian, List.length_cons, ih]

/-- **The number comes back**, as far as the bytes hold it. -/
theorem fromLittleEndian_littleEndian (n x : ℕ) :
    fromLittleEndian (littleEndian n x) = x % 256 ^ n := by
  induction n generalizing x with
  | zero => rw [pow_zero, Nat.mod_one, littleEndian, fromLittleEndian]
  | succ n ih =>
    have hbyte : (BitVec.ofNat 8 x).toNat = x % 256 := BitVec.toNat_ofNat x 8
    rw [littleEndian, fromLittleEndian, ih, hbyte, pow_succ', ← Nat.mod_mul]

theorem fromLittleEndian_lt (l : List (BitVec 8)) : fromLittleEndian l < 256 ^ l.length := by
  induction l with
  | nil => exact Nat.one_pos
  | cons b l ih =>
    rw [fromLittleEndian, List.length_cons, pow_succ']
    omega

theorem littleEndian_zero (n : ℕ) : littleEndian n 0 = List.replicate n 0 := by
  induction n with
  | zero => rfl
  | succ n ih =>
    rw [littleEndian, Nat.zero_div, ih, List.replicate_succ]
    rfl

/-- **Read too early**, behind a run of zeros, only zero is read as what it is. -/
theorem eq_zero_of_shifted {n k x : ℕ} {l : List (BitVec 8)} (hx : x < 256 ^ n) (hk : 0 < k)
    (h : fromLittleEndian ((List.replicate k 0 ++ littleEndian n x ++ l).take n) = x) : x = 0 := by
  induction n generalizing x with
  | zero => simpa using hx
  | succ n ih =>
    obtain ⟨k, rfl⟩ : ∃ j, k = j + 1 := ⟨k - 1, by omega⟩
    have hlow : 256 * fromLittleEndian ((List.replicate k 0 ++
        (BitVec.ofNat 8 x :: littleEndian n (x / 256)) ++ l).take n) = x := by
      have hfirst : (0 : BitVec 8).toNat = 0 := rfl
      simpa only [List.replicate_succ, List.cons_append, List.take_succ_cons, fromLittleEndian,
        hfirst, Nat.zero_add, littleEndian] using h
    have hbyte : BitVec.ofNat 8 x = 0 := by
      rw [← hlow]
      apply BitVec.eq_of_toNat_eq
      rw [BitVec.toNat_ofNat]
      exact Nat.mul_mod_right 256 _
    have hshift :
        List.replicate k (0 : BitVec 8) ++ (BitVec.ofNat 8 x :: littleEndian n (x / 256)) =
        List.replicate (k + 1) 0 ++ littleEndian n (x / 256) := by
      rw [hbyte, List.replicate_succ', List.append_assoc]
      rfl
    rw [hshift] at hlow
    have hhigh : x / 256 = 0 := by
      refine ih ?_ ?_
      · rw [pow_succ] at hx
        exact Nat.div_lt_of_lt_mul (by rwa [Nat.mul_comm] at hx)
      · omega
    omega

end Commons
