import Mathlib.Tactic.SplitIfs
import TeraCore.Entities.ObjectGuid

/-!
# Players: the purse

A player's money is an unsigned 32-bit field.  It is changed by a *signed* 32-bit difference,
and `Player.modifyMoney` saturates: at zero below, and at `maxMoneyAmount` above.

Signed and unsigned words are both `BitVec 32`; a difference is negative when its sign bit is
set.

## Main results

* `Player.modifyMoney_neg`, `Player.modifyMoney_below_cap`, `Player.modifyMoney_at_cap`,
  `Player.modifyMoney_past_cap`: the purse as a number, for every kind of difference
* `Player.modifyMoney_eq_add_iff`: when an amount is added in full
-/

namespace TeraCore

/-- The most money a player may hold. -/
def maxMoneyAmount : BitVec 32 := 0x7FFFFFFF#32 - 1#32

/-- What the money paths read of a player. -/
structure Player where
  guid : Guid
  money : BitVec 32
  deriving DecidableEq

namespace Player

variable (p : Player)

/-- `Player::HasEnoughMoney(uint32)`. -/
def hasEnoughMoney (amount : BitVec 32) : Bool := amount ≤ p.money

/-- **`Player::ModifyMoney`**: add a signed difference, saturating at zero and at the cap. -/
def modifyMoney (d : BitVec 32) : Player :=
  if d.slt 0 then
    { p with money := if -d < p.money then p.money + d else 0 }
  else
    { p with money := if p.money < maxMoneyAmount - d then p.money + d else maxMoneyAmount }

theorem maxMoneyAmount_toNat : maxMoneyAmount.toNat = 2 ^ 31 - 2 := by decide

theorem slt_zero_iff (d : BitVec 32) : d.slt 0 = true ↔ 2 ^ 31 ≤ d.toNat := by
  rw [BitVec.slt_iff_toInt_lt, BitVec.toInt_eq_toNat_cond]
  split <;> simp <;> omega

/-- A negative difference takes its absolute value, and never more than there is. -/
theorem modifyMoney_neg {d : BitVec 32} (hd : 2 ^ 31 ≤ d.toNat) :
    (p.modifyMoney d).money.toNat = p.money.toNat - (2 ^ 32 - d.toNat) := by
  rw [modifyMoney, if_pos ((slt_zero_iff d).mpr hd)]
  split_ifs with h <;> bv_omega

theorem modifyMoney_below_cap {d : BitVec 32} (hd : p.money.toNat + d.toNat ≤ maxMoneyAmount.toNat)
    :
    (p.modifyMoney d).money.toNat = p.money.toNat + d.toNat := by
  rw [maxMoneyAmount_toNat] at hd
  have hneg : ¬ d.slt 0 = true := by
    rw [slt_zero_iff]
    omega
  rw [modifyMoney, if_neg hneg]
  have hcap := maxMoneyAmount_toNat
  split_ifs with h
  · bv_omega
  · have : (maxMoneyAmount - d).toNat = maxMoneyAmount.toNat - d.toNat := by bv_omega
    rw [BitVec.lt_def] at h
    simp only
    omega

theorem modifyMoney_pay {x : BitVec 32} (hx : x ≤ p.money) (hp : p.money ≤ maxMoneyAmount) :
    (p.modifyMoney (-x)).money.toNat + x.toNat = p.money.toNat := by
  have hmax := maxMoneyAmount_toNat
  rw [BitVec.le_def] at hx hp
  rcases Nat.eq_zero_or_pos x.toNat with hzero | hpos
  · have hneg : (-x).toNat = 0 := by bv_omega
    rw [modifyMoney_below_cap p (by omega), hneg]
    omega
  · have hneg : (-x).toNat = 2 ^ 32 - x.toNat := by bv_omega
    rw [modifyMoney_neg p (by omega), hneg]
    omega

theorem modifyMoney_at_cap {d : BitVec 32} (hd : d.toNat ≤ maxMoneyAmount.toNat)
    (hcap : maxMoneyAmount.toNat < p.money.toNat + d.toNat) :
    (p.modifyMoney d).money = maxMoneyAmount := by
  have hmax := maxMoneyAmount_toNat
  have hneg : ¬ d.slt 0 = true := by
    rw [slt_zero_iff]
    omega
  have hsub : (maxMoneyAmount - d).toNat = maxMoneyAmount.toNat - d.toNat := by bv_omega
  have hnot : ¬ p.money < maxMoneyAmount - d := by
    rw [BitVec.lt_def]
    omega
  rw [modifyMoney, if_neg hneg]
  simp only [hnot, if_false]

/-- The one positive difference above the cap, `2 ^ 31 - 1`, wraps the cap's own test around:
it is always added, past the cap. -/
theorem modifyMoney_past_cap (hp : p.money ≤ maxMoneyAmount) {d : BitVec 32}
    (hd : d.toNat = 2 ^ 31 - 1) :
    (p.modifyMoney d).money.toNat = p.money.toNat + d.toNat := by
  have hmax := maxMoneyAmount_toNat
  rw [BitVec.le_def] at hp
  have hneg : ¬ d.slt 0 = true := by
    rw [slt_zero_iff]
    omega
  have hsub : (maxMoneyAmount - d).toNat = 2 ^ 32 - 1 := by bv_omega
  have hlt : p.money < maxMoneyAmount - d := by
    rw [BitVec.lt_def]
    omega
  rw [modifyMoney, if_neg hneg]
  simp only [hlt, if_true]
  bv_omega

/-- A purse takes an amount as it is when it has room for it, or when the amount is the one that
steps over the cap. -/
theorem modifyMoney_eq_add_iff (hcap : p.money ≤ maxMoneyAmount) (d : BitVec 32) :
    (p.modifyMoney d).money.toNat = p.money.toNat + d.toNat ↔
      p.money.toNat + d.toNat ≤ maxMoneyAmount.toNat ∨ d.toNat = 2 ^ 31 - 1 := by
  have hmax := maxMoneyAmount_toNat
  rcases Nat.lt_trichotomy d.toNat (2 ^ 31 - 1) with hlt | heq | hgt
  · by_cases hroom : p.money.toNat + d.toNat ≤ maxMoneyAmount.toNat
    · simp [p.modifyMoney_below_cap hroom, hroom]
    · rw [p.modifyMoney_at_cap (by omega) (by omega)]
      omega
  · simp [p.modifyMoney_past_cap hcap heq, heq]
  · rw [p.modifyMoney_neg (by omega)]
    omega

end Player

end TeraCore
