import TeraCore.Guilds.Roster

/-!
# Guilds: money in and out of the bank

A deposit moves an unsigned 32-bit amount from a player's purse to the guild's 64-bit balance,
and a withdrawal moves it back.  The purse is changed by the amount *read as a signed word*, and
it saturates at the cap, so that a transfer does not always arrive.

## Main results

* `modifyBankMoney_add`, `modifyBankMoney_sub`: the balance as a number
* `deposit_total_iff`, `withdraw_total_iff`: when a transfer that passes its checks keeps the
  total
* `bankMoneyConserved_iff`: when both commands conserve money
-/

namespace TeraCore

open Commons

namespace Guild

variable (g : Guild)

/-- **`Guild::_ModifyBankMoney`**: the balance after a deposit (`add`) or a withdrawal. -/
def modifyBankMoney (amount : BitVec 64) (add : Bool) : Bool × Guild :=
  if add then (true, { g with bankMoney := g.bankMoney + amount })
  else if g.bankMoney < amount then (false, g)
  else (true, { g with bankMoney := g.bankMoney - amount })

variable (player : Player)

def handleMemberDepositMoney (amount : BitVec 32) : Guild × Player :=
  ((g.modifyBankMoney (amount.setWidth 64) true).2, player.modifyMoney (-amount))

/-- Does the guild let the player withdraw the amount? The bank must have it, and the member's
remaining money for today, read as unsigned, must cover it. -/
def canWithdrawMoney (player : Guid) (amount : BitVec 32) : Bool :=
  match g.getMember player with
  | some member =>
    !(g.bankMoney < amount.setWidth 64) && !(g.getMemberRemainingMoney member < amount)
  | none => false

/-- **`Guild::HandleMemberWithdrawMoney`.** A withdrawal for repairs is spent, and does not
reach the player's purse. -/
def handleMemberWithdrawMoney (amount : BitVec 32) (repair : Bool) : Bool × Guild × Player :=
  if g.bankMoney < amount.setWidth 64 then (false, g, player)
  else match g.getMember player.guid with
    | none => (false, g, player)
    | some member =>
      if g.getMemberRemainingMoney member < amount then (false, g, player)
      else
        let g := g.setMember (member.updateBankWithdrawValue moneyCounter amount)
        let g := (g.modifyBankMoney (amount.setWidth 64) false).2
        (true, g, if repair then player else player.modifyMoney amount)

/-- `WorldSession::HandleGuildBankDepositMoney` at a guild bank. -/
def handleGuildBankDepositMoney (money : BitVec 32) : Guild × Player :=
  if money ≠ 0 ∧ player.hasEnoughMoney money then g.handleMemberDepositMoney player money
  else (g, player)

/-- `WorldSession::HandleGuildBankWithdrawMoney` at a guild bank. -/
def handleGuildBankWithdrawMoney (money : BitVec 32) : Guild × Player :=
  if money ≠ 0 then (g.handleMemberWithdrawMoney player money false).2 else (g, player)

/-! ## The money of a guild and a player -/

/-- The bank's money and the player's, together. -/
def totalMoney (s : Guild × Player) : ℕ := s.1.bankMoney.toNat + s.2.money.toNat

@[simp] theorem setMember_bankMoney (m : Member) : (g.setMember m).bankMoney = g.bankMoney := rfl

theorem setWidth_toNat (amount : BitVec 32) :
    (amount.setWidth 64 : BitVec 64).toNat = amount.toNat := by
  rw [BitVec.toNat_setWidth, Nat.mod_eq_of_lt (by omega)]

theorem modifyBankMoney_add (amount : BitVec 64) :
    (g.modifyBankMoney amount true).2.bankMoney.toNat =
      (g.bankMoney.toNat + amount.toNat) % 2 ^ 64 := by
  simp [modifyBankMoney, BitVec.toNat_add]

theorem modifyBankMoney_sub {amount : BitVec 64} (h : ¬ g.bankMoney < amount) :
    (g.modifyBankMoney amount false).2.bankMoney.toNat = g.bankMoney.toNat - amount.toNat := by
  simp only [modifyBankMoney, Bool.false_eq_true, if_false, h]
  bv_omega

/-! ## Deposits -/

variable {money : BitVec 32}

/-- A deposit that passes its checks: what arrives in the bank, and what leaves the purse. -/
theorem handleMemberDepositMoney_money (g : Guild) (player : Player)
    (hne : money ≠ 0) (hcap : player.money ≤ maxMoneyAmount)
    (henough : player.hasEnoughMoney money = true) :
    (g.handleMemberDepositMoney player money).1.bankMoney.toNat =
        (g.bankMoney.toNat + money.toNat) % 2 ^ 64 ∧
      (g.handleMemberDepositMoney player money).2.money.toNat =
        player.money.toNat - money.toNat := by
  have hmax := Player.maxMoneyAmount_toNat
  have hle : money.toNat ≤ player.money.toNat := by
    simpa [Player.hasEnoughMoney, BitVec.le_def] using henough
  rw [BitVec.le_def] at hcap
  have hneg : (-money).toNat = 2 ^ 32 - money.toNat := by bv_omega
  constructor
  · rw [handleMemberDepositMoney, modifyBankMoney_add, setWidth_toNat]
  · rw [handleMemberDepositMoney, Player.modifyMoney_neg _ (by omega), hneg]
    omega

theorem deposit_total_iff (g : Guild) (player : Player)
    (hne : money ≠ 0) (hcap : player.money ≤ maxMoneyAmount)
    (henough : player.hasEnoughMoney money = true) :
    totalMoney (g.handleGuildBankDepositMoney player money) = totalMoney (g, player) ↔
      g.bankMoney.toNat + money.toNat < 2 ^ 64 := by
  obtain ⟨hbank, hpurse⟩ := g.handleMemberDepositMoney_money player hne hcap henough
  have hle : money.toNat ≤ player.money.toNat := by
    simpa [Player.hasEnoughMoney, BitVec.le_def] using henough
  rw [handleGuildBankDepositMoney, if_pos ⟨hne, henough⟩, totalMoney, totalMoney, hbank, hpurse]
  constructor
  · intro h
    by_contra hge
    simp only at h
    omega
  · intro h
    rw [Nat.mod_eq_of_lt h]
    simp only
    omega

/-! ## Withdrawals -/

/-- When the amount arrives in the purse as it left the bank: read as signed it is positive, and
the purse has room for it. The amount `2 ^ 31 - 1` slips past the cap's test. -/
def ArrivesInPurse (player : Player) (money : BitVec 32) : Prop :=
  player.money.toNat + money.toNat ≤ maxMoneyAmount.toNat ∨ money.toNat = 2 ^ 31 - 1

instance (player : Player) (money : BitVec 32) : Decidable (ArrivesInPurse player money) :=
  inferInstanceAs (Decidable (_ ∨ _))

theorem modifyMoney_eq_add_iff (player : Player) (hcap : player.money ≤ maxMoneyAmount) :
    (player.modifyMoney money).money.toNat = player.money.toNat + money.toNat ↔
      ArrivesInPurse player money := by
  have hmax := Player.maxMoneyAmount_toNat
  constructor
  · intro h
    by_contra hnot
    rw [ArrivesInPurse, not_or] at hnot
    rcases Nat.lt_or_ge money.toNat (2 ^ 31) with hlt | hge
    · rw [Player.modifyMoney_at_cap player (by omega) (by omega)] at h
      omega
    · rw [Player.modifyMoney_neg player hge] at h
      omega
  · rintro (h | h)
    · exact Player.modifyMoney_below_cap player h
    · exact Player.modifyMoney_past_cap player hcap h

theorem handleMemberWithdrawMoney_refused (g : Guild) (player : Player)
    (repair : Bool) (h : g.canWithdrawMoney player.guid money = false) :
    g.handleMemberWithdrawMoney player money repair = (false, g, player) := by
  unfold handleMemberWithdrawMoney canWithdrawMoney at *
  cases hm : g.getMember player.guid with
  | none => simp
  | some member =>
    simp only [hm] at h
    by_cases hb : g.bankMoney < money.setWidth 64
    · simp [hb]
    · have hr : g.getMemberRemainingMoney member < money := by simpa [hb] using h
      simp [hb, hr]

theorem handleMemberWithdrawMoney_allowed (g : Guild) (player : Player)
    (h : g.canWithdrawMoney player.guid money = true) :
    (g.handleMemberWithdrawMoney player money false).1 = true ∧
      (g.handleMemberWithdrawMoney player money false).2.1.bankMoney.toNat =
        g.bankMoney.toNat - money.toNat ∧
      (g.handleMemberWithdrawMoney player money false).2.2 = player.modifyMoney money ∧
      money.toNat ≤ g.bankMoney.toNat := by
  unfold handleMemberWithdrawMoney canWithdrawMoney at *
  cases hm : g.getMember player.guid with
  | none => simp [hm] at h
  | some member =>
    simp only [hm, Bool.and_eq_true, Bool.not_eq_true', decide_eq_false_iff_not] at h
    obtain ⟨hb, hr⟩ := h
    have hle : money.toNat ≤ g.bankMoney.toNat := by
      rwa [BitVec.lt_def, setWidth_toNat, not_lt] at hb
    simp only [hb, hr, if_false]
    refine ⟨trivial, ?_, rfl, hle⟩
    rw [modifyBankMoney_sub _ (by simpa using hb), setWidth_toNat]
    rfl

theorem withdraw_total_iff (g : Guild) (player : Player) (hne : money ≠ 0)
    (hcap : player.money ≤ maxMoneyAmount) (hcan : g.canWithdrawMoney player.guid money = true) :
    totalMoney (g.handleGuildBankWithdrawMoney player money) = totalMoney (g, player) ↔
      ArrivesInPurse player money := by
  obtain ⟨-, hbank, hpurse, hle⟩ := g.handleMemberWithdrawMoney_allowed player hcan
  rw [← modifyMoney_eq_add_iff player hcap, handleGuildBankWithdrawMoney, if_pos hne,
    totalMoney, totalMoney, hbank, hpurse]
  simp only
  omega

/-! ## Conservation -/

/-- **Conservation** at one balance, purse and amount: a command that passes its checks keeps
the total, and one that fails them changes nothing. -/
def BankMoneyConserved (g : Guild) (player : Player) (money : BitVec 32) : Prop :=
  (if money ≠ 0 ∧ player.hasEnoughMoney money = true then
      totalMoney (g.handleGuildBankDepositMoney player money) = totalMoney (g, player)
    else g.handleGuildBankDepositMoney player money = (g, player)) ∧
  (if money ≠ 0 ∧ g.canWithdrawMoney player.guid money = true then
      totalMoney (g.handleGuildBankWithdrawMoney player money) = totalMoney (g, player)
    else g.handleGuildBankWithdrawMoney player money = (g, player))

theorem deposit_conserved_iff (g : Guild) (player : Player) (money : BitVec 32)
    (hcap : player.money ≤ maxMoneyAmount) :
    (if money ≠ 0 ∧ player.hasEnoughMoney money = true then
        totalMoney (g.handleGuildBankDepositMoney player money) = totalMoney (g, player)
      else g.handleGuildBankDepositMoney player money = (g, player)) ↔
    (money ≠ 0 ∧ player.hasEnoughMoney money = true →
      g.bankMoney.toNat + money.toNat < 2 ^ 64) := by
  split_ifs with h
  · rw [deposit_total_iff g player h.1 hcap h.2]
    exact ⟨fun hlt _ => hlt, fun hlt => hlt h⟩
  · rw [handleGuildBankDepositMoney, if_neg h]
    exact ⟨fun _ hpass => absurd hpass h, fun _ => rfl⟩

theorem withdraw_conserved_iff (g : Guild) (player : Player) (money : BitVec 32)
    (hcap : player.money ≤ maxMoneyAmount) :
    (if money ≠ 0 ∧ g.canWithdrawMoney player.guid money = true then
        totalMoney (g.handleGuildBankWithdrawMoney player money) = totalMoney (g, player)
      else g.handleGuildBankWithdrawMoney player money = (g, player)) ↔
    (money ≠ 0 ∧ g.canWithdrawMoney player.guid money = true →
      ArrivesInPurse player money) := by
  split_ifs with h
  · rw [withdraw_total_iff g player h.1 hcap h.2]
    exact ⟨fun harr _ => harr, fun harr => harr h⟩
  · refine ⟨fun _ hpass => absurd hpass h, fun _ => ?_⟩
    rw [handleGuildBankWithdrawMoney]
    split_ifs with hne
    · have hcan : g.canWithdrawMoney player.guid money = false := by
        rw [not_and, Bool.not_eq_true] at h
        exact h hne
      rw [handleMemberWithdrawMoney_refused g player false hcan]
    · rfl

/-- **When the money is conserved.** For a purse within the cap, the commands conserve money
exactly when a deposit that passes its checks leaves the 64-bit balance unwrapped, and a
withdrawal that passes them arrives in the purse. -/
theorem bankMoneyConserved_iff (g : Guild) (player : Player) (money : BitVec 32)
    (hcap : player.money ≤ maxMoneyAmount) :
    BankMoneyConserved g player money ↔
      (money ≠ 0 ∧ player.hasEnoughMoney money = true →
        g.bankMoney.toNat + money.toNat < 2 ^ 64) ∧
      (money ≠ 0 ∧ g.canWithdrawMoney player.guid money = true →
        ArrivesInPurse player money) :=
  and_congr (deposit_conserved_iff g player money hcap) (withdraw_conserved_iff g player money hcap)

/-- A guild of its guild master, player `1`, with 100 gold in the bank. -/
def richGuild : Guild where
  id := 1
  leaderGuid := 1
  motd := ""
  ranks := [⟨grGuildmaster, "Guild Master", grRightAll, guildWithdrawMoneyUnlimited,
    fun i => (⟨BitVec.ofNat 8 i, 0, 0⟩ : GuildBankRightsAndSlots).setGuildMasterValues⟩]
  members := OrderedMap.empty.set 1 ⟨1, "Master", grGuildmaster, "", "", fun _ => 0⟩
  purchasedTabs := 0
  bankMoney := 1000000

/-- A deposit of 1 gold and a withdrawal of 1 gold by a player far from the cap. -/
theorem bankMoneyConserved_iff_far_from_cap : BankMoneyConserved richGuild ⟨1, 50000⟩ 10000 :=
  (bankMoneyConserved_iff richGuild ⟨1, 50000⟩ 10000 (by decide)).mpr (by decide)

/-- The guild master, 5 copper below the cap, withdraws 1 gold: the bank loses it, and the purse
gains 5 copper. -/
theorem bankMoney_lost_at_cap :
    ¬ ∀ (g : Guild) (player : Player) (money : BitVec 32), player.money ≤ maxMoneyAmount →
      BankMoneyConserved g player money := by
  intro h
  have hlost := (h richGuild ⟨1, maxMoneyAmount - 5⟩ 10000 (by decide)).2
  rw [if_pos (by decide)] at hlost
  revert hlost
  decide

end Guild

end TeraCore
