import Mathlib.NumberTheory.LucasPrimality
import Mathlib.Tactic.NormNum.Prime

/-!
# Certificates of primality

Lucas' test shows that a number is prime from an element of full order, given the prime factors
of its predecessor.  A certificate lists numbers, each with such an element and with factors that
are known before it.  Whether it is one is a computation.

## Main definitions

* `powMod`: a power modulo a number, by repeated squaring
* `PrimeCertificate`: the numbers in turn, each with its element and its factors

## Main results

* `prime_of_isValid`: every number of a valid certificate is prime
-/

namespace Commons

/-- `a ^ n` modulo `m`, in at most `steps` squarings. -/
def powMod (m : ℕ) : ℕ → ℕ → ℕ → ℕ
  | 0, _, _ => 1 % m
  | steps + 1, a, n => a ^ (n % 2) * powMod m steps (a * a % m) (n / 2) % m

theorem powMod_eq (m steps a n : ℕ) (h : n < 2 ^ steps) : powMod m steps a n = a ^ n % m := by
  induction steps generalizing a n with
  | zero =>
    rw [powMod, Nat.lt_one_iff.mp h, pow_zero]
  | succ steps ih =>
    have hhalf : n / 2 < 2 ^ steps := by
      rw [pow_succ] at h
      omega
    -- the square carries the even part of the exponent
    have hpow : a ^ n = a ^ (n % 2) * (a * a) ^ (n / 2) := by
      rw [← sq, ← pow_mul, ← pow_add, Nat.mod_add_div]
    rw [powMod, ih _ _ hhalf, hpow, ← Nat.pow_mod, Nat.mul_mod_mod]

/-- Numbers, each with an element of full order and the factors of its predecessor. -/
abbrev PrimeCertificate := List (ℕ × ℕ × List ℕ)

/-- Lucas' test of `p`, with the element `a`. -/
def passesLucas (p a : ℕ) (factors : List ℕ) : Bool :=
  let steps := p.log2 + 1
  1 < p && factors.prod == p - 1 && powMod p steps a (p - 1) == 1 &&
    factors.all fun q => powMod p steps a ((p - 1) / q) != 1

theorem prime_of_passesLucas {p a : ℕ} {factors : List ℕ} (hfactors : ∀ q ∈ factors, q.Prime)
    (h : passesLucas p a factors) : p.Prime := by
  simp only [passesLucas, Bool.and_eq_true, decide_eq_true_eq, List.all_eq_true, beq_iff_eq,
    bne_iff_ne] at h
  obtain ⟨⟨⟨hone, hprod⟩, hfull⟩, hproper⟩ := h
  have hlt : p < 2 ^ (p.log2 + 1) := Nat.lt_log2_self
  have hcast : ∀ n ≤ p - 1, ((a : ZMod p) ^ n = 1 ↔ powMod p (p.log2 + 1) a n = 1) := by
    intro n hn
    rw [powMod_eq _ _ _ _ (by omega), ← Nat.cast_pow, ← Nat.cast_one,
      ZMod.natCast_eq_natCast_iff', Nat.mod_eq_of_lt hone]
  apply lucas_primality p (a : ZMod p)
  · exact (hcast _ le_rfl).mpr hfull
  · intro q hq hdvd
    rw [← hprod] at hdvd
    obtain ⟨r, hr, hqr⟩ := hq.prime.dvd_prod_iff.mp hdvd
    obtain rfl := (Nat.prime_dvd_prime_iff_eq hq (hfactors r hr)).mp hqr
    rw [ne_eq, hcast _ (Nat.div_le_self _ _)]
    exact hproper q hr

/-- Every number passes the test with factors that are known before it. -/
def PrimeCertificate.isValid : List ℕ → PrimeCertificate → Bool
  | _, [] => true
  | known, (p, a, factors) :: rest =>
    factors.all known.contains && passesLucas p a factors && isValid (p :: known) rest

theorem PrimeCertificate.prime_of_isValid {known : List ℕ} {cert : PrimeCertificate}
    (hknown : ∀ q ∈ known, q.Prime) (h : cert.isValid known) :
    ∀ p ∈ cert.map Prod.fst, p.Prime := by
  induction cert generalizing known with
  | nil =>
    intro p hp
    cases hp
  | cons entry rest ih =>
    obtain ⟨p, a, factors⟩ := entry
    simp only [isValid, Bool.and_eq_true, List.all_eq_true, List.contains_iff_mem] at h
    obtain ⟨⟨hfactors, hlucas⟩, hrest⟩ := h
    have hp : p.Prime := prime_of_passesLucas (fun q hq => hknown q (hfactors q hq)) hlucas
    have hknown' : ∀ q ∈ p :: known, q.Prime := List.forall_mem_cons.mpr ⟨hp, hknown⟩
    rw [List.map_cons]
    exact List.forall_mem_cons.mpr ⟨hp, ih hknown' hrest⟩

end Commons
