import TeraCore.Commons.PrimeCertificate
import TeraCore.Auth.AuthSocket

/-!
# The shared secret of a logon

The client's proof brings a number `A` of 32 bytes.  The server multiplies it with a power of the
account's verifier, and a power of the product modulo `N` is the secret that the session key is
hashed from.  If `N` divides `A`, the secret is zero for every account.

`_HandleLogonProof` refuses the `A` that is zero.  A number of 32 bytes has room for one more
multiple of `N`, which is `N`.

## Main results

* `AuthSocket.prime_N`: the modulus is prime
* `AuthSocket.logonPasses_of_modulus`: who sends `N` logs on to an account without its verifier
* `AuthSocket.safeguardHolds_iff`: when the safeguard holds
-/

namespace TeraCore.Auth

open Commons

namespace AuthSocket

/-- `N`, as the constructor sets it. -/
def N : ℕ := 0x894B645E89E1535BBDAD5B8B290650530801B18EBFBF5E8FAB3C82872A3E9BB7

/-- How `N` is known to be prime. -/
def certificateN : PrimeCertificate :=
  [(226199, 7, [2, 7, 107, 151]), (271499, 2, [2, 29, 31, 151]),
    (2340581, 2, [2, 2, 5, 11, 10639]), (1165583, 5, [2, 11, 52981]), (6993499, 2, [2, 3, 1165583]),
    (40607683, 3, [2, 3, 719, 9413]), (29643608591, 7, [2, 5, 73, 40607683]),
    (59287217183, 5, [2, 29643608591]), (118574434367, 5, [2, 59287217183]),
    (259213121161734433, 10, [2, 2, 2, 2, 2, 3, 7, 11, 571, 226199, 271499]),
    (3110557453940813197, 2, [2, 2, 3, 259213121161734433]),
    (28086973, 5, [2, 2, 3, 2340581]), (3345116454683, 2, [2, 311, 769, 6993499]),
    (2194081313, 3, [2, 2, 2, 2, 2, 6079, 11279]),
    (6099546050141, 2, [2, 2, 5, 139, 2194081313]),
    (1573682880936379, 2, [2, 3, 43, 6099546050141]),
    (2279079126837977412406933585396045119937459, 3,
      [2, 3, 7, 31, 11839, 28086973, 3345116454683, 1573682880936379]),
    (31050033254578008671034748070451474931624879168000398464283220585146864324059, 2,
      [2, 11, 23, 73, 118574434367, 3110557453940813197,
        2279079126837977412406933585396045119937459]),
    (N, 7, [2, 31050033254578008671034748070451474931624879168000398464283220585146864324059])]

theorem prime_N : N.Prime := by
  refine @PrimeCertificate.prime_of_isValid [2, 3, 5, 7, 11, 23, 29, 31, 43, 73, 107, 139,
    151, 311, 571, 719, 769, 6079, 9413, 10639, 11279, 11839, 52981] certificateN ?_
    (by decide +kernel) N (by decide +kernel)
  norm_num

theorem N_bounds : 2 ^ 255 < N ∧ N < 2 ^ 256 := by decide

theorem eq_of_mod_N_eq_zero {A : ℕ} (hA : A < 2 ^ 256) (h : A % N = 0) : A = 0 ∨ A = N := by
  obtain ⟨k, rfl⟩ := Nat.dvd_of_mod_eq_zero h
  have hk : k < 2 := by
    by_contra hk
    have hle : N * 2 ≤ N * k := Nat.mul_le_mul_left N (Nat.le_of_not_lt hk)
    have hN := N_bounds.1
    omega
  interval_cases k
  · exact .inl (Nat.mul_zero N)
  · exact .inr (Nat.mul_one N)

/-! ## The secret -/

/-- **`S`**, as `_HandleLogonProof` computes it. -/
def sharedSecret (A v u b : ℕ) : ℕ := (A * (v ^ u % N)) ^ b % N

theorem sharedSecret_ne_zero {A v u b : ℕ} (hA : A % N ≠ 0) (hv : 0 < v) (hvN : v < N) :
    sharedSecret A v u b ≠ 0 := by
  intro h
  have hdvd : N ∣ A * (v ^ u % N) := prime_N.dvd_of_dvd_pow (Nat.dvd_of_mod_eq_zero h)
  rcases prime_N.dvd_mul.mp hdvd with hdvd | hdvd
  · exact hA (Nat.mod_eq_zero_of_dvd hdvd)
  · -- the power of the verifier is a unit
    rw [Nat.dvd_mod_iff dvd_rfl] at hdvd
    have hle : N ≤ v := Nat.le_of_dvd hv (prime_N.dvd_of_dvd_pow hdvd)
    exact absurd hvN (Nat.not_lt.mpr hle)

theorem sharedSecret_eq_zero {A v u b : ℕ} (hA : A % N = 0) (hb : 0 < b) :
    sharedSecret A v u b = 0 := by
  have hdvd : N ∣ A * (v ^ u % N) := (Nat.dvd_of_mod_eq_zero hA).mul_right _
  exact Nat.mod_eq_zero_of_dvd (dvd_pow hdvd hb.ne')

/-- The hashes: `u`, of `A` and `B`, and `K`, of `S`. -/
structure Hashes where
  u : ℕ → ℕ → ℕ
  K : ℕ → ℕ

/-- The session key, by the hash of the secret. -/
def Hashes.sessionKey (h : Hashes) (A B v b : ℕ) : ℕ := h.K (sharedSecret A v (h.u A B) b)

/-- **Who sends `N` passes** with the proof for the hash of zero, whatever the verifier is. -/
theorem logonPasses_of_modulus (srp : Srp) (h : Hashes) (hkey : srp.sessionKey = h.sessionKey)
    (σ : AuthSocket) (hversion : σ._expversion ≠ NO_VALID_EXP_FLAG) (hb : 0 < σ.b) :
    σ.logonPasses srp ⟨N, srp.proof σ._login σ.s N σ.B (h.K 0)⟩ = true := by
  have hzero : σ.keyOf srp ⟨N, srp.proof σ._login σ.s N σ.B (h.K 0)⟩ = h.K 0 := by
    rw [keyOf, hkey, Hashes.sessionKey, sharedSecret_eq_zero (Nat.mod_self N) hb]
  rw [logonPasses, hzero, computesKey, Bool.and_eq_true, Bool.and_eq_true, bne_iff_ne, bne_iff_ne,
    beq_self_eq_true]
  exact ⟨⟨hversion, prime_N.ne_zero⟩, rfl⟩

/-- The key is the hash of the secret here, and the hash of a number is the number. -/
def hashedSrp : Srp := { exampleSrp with sessionKey := Hashes.sessionKey ⟨fun A B => A + B, id⟩ }

/-- A connection that was challenged for an account with a verifier. -/
def challenged : AuthSocket :=
  ((new NO_VALID_EXP_FLAG).logonChallenge hashedSrp exampleAnswers
    (.read (exampleChallenge 0x00 [65, 66]))).1

theorem logonPasses_of_modulus_example :
    challenged._login = [65, 66] ∧ challenged.v ≠ 0 ∧
      challenged.logonPasses hashedSrp ⟨N, hashedSrp.proof challenged._login challenged.s N
        challenged.B 0⟩ = true :=
  ⟨by decide, by decide, logonPasses_of_modulus hashedSrp ⟨fun A B => A + B, id⟩ rfl challenged
    (by decide) (by decide)⟩

/-! ## The safeguard -/

/-- **The safeguard**: a proof that the session key is computed for has a number that `N` does not
divide, and its secret is zero for no account. -/
def SafeguardHolds (σ : AuthSocket) (lp : LogonProof) : Prop :=
  σ.computesKey lp = true →
    lp.A % N ≠ 0 ∧ ∀ v u b, 0 < v → v < N → 0 < b → sharedSecret lp.A v u b ≠ 0

theorem read_A_lt (packet : List Byte) : (LogonProof.read packet).A < 2 ^ 256 := by
  have hlength : ((packet.drop 1).take 32).length ≤ 32 := List.length_take_le _ _
  calc (LogonProof.read packet).A < 256 ^ ((packet.drop 1).take 32).length :=
        fromLittleEndian_lt _
    _ ≤ 256 ^ 32 := Nat.pow_le_pow_right (by decide) hlength
    _ = 2 ^ 256 := by decide

/-- **The safeguard holds** of the packets that do not bring `N`, and of every packet when the
client's build was refused. -/
theorem safeguardHolds_iff (σ : AuthSocket) (packet : List Byte) :
    σ.SafeguardHolds (.read packet) ↔
      σ._expversion = NO_VALID_EXP_FLAG ∨ (LogonProof.read packet).A ≠ N := by
  constructor
  · intro h
    rw [or_iff_not_imp_left]
    intro hversion hA
    refine (h ?_).1 (by rw [hA, Nat.mod_self])
    rw [computesKey, hA, Bool.and_eq_true, bne_iff_ne]
    exact ⟨hversion, by decide⟩
  · intro h hcomputes
    rw [computesKey, Bool.and_eq_true, bne_iff_ne, bne_iff_ne] at hcomputes
    have hmod : (LogonProof.read packet).A % N ≠ 0 := by
      intro hmod
      rcases eq_of_mod_N_eq_zero (read_A_lt packet) hmod with hzero | hN
      · exact hcomputes.2 hzero
      · exact h.resolve_left hcomputes.1 hN
    exact ⟨hmod, fun v u b hv hvN _ => sharedSecret_ne_zero hmod hv hvN⟩

/-- A proof with the number `N`. -/
def modulusProof : List Byte := 0x01 :: (littleEndian 32 N ++ List.replicate 41 0)

/-- Of a client with an accepted build, the server computes a secret that is zero. -/
theorem not_safeguardHolds_modulus :
    ¬ SafeguardHolds (AuthSocket.new POST_BC_EXP_FLAG) (.read modulusProof) := by
  intro h
  have hA : (LogonProof.read modulusProof).A = N := by decide +kernel
  refine (h ?_).1 (by rw [hA, Nat.mod_self])
  rw [computesKey, hA]
  decide

end AuthSocket

end TeraCore.Auth
