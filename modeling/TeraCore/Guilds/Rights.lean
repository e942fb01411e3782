import TeraCore.Guilds.BankMoney

/-!
# Guilds: what a rank's rights allow

Every right-guarded action is tested as `rights &&& mask ≠ grRightEmpty`.  The masks of the
roster commands contain the bit `grRightEmpty` itself; the masks of the bank do not.  So the
tests do not ask for the bit of the action: a roster command is also allowed to a rank whose
mask has neither that bit nor `grRightEmpty`, and the bank's tests are never failed.

## Main results

* `and_rosterMask_ne_grRightEmpty_iff`: what the test of a roster command tests
* `allowed_withdrawMoney_iff`, `allowed_withdrawItem_iff`: the bank's tests leave only today's
  allowance
* `handleSetMOTD_allowed` and its siblings: who changes something by a command is allowed to
* `granted_of_allowed_iff`: when an action is allowed only to those it is granted to
-/

namespace TeraCore

open Commons

namespace Guild

/-- **`BankMoveItemData::HasWithdrawRights`** for an item that leaves the tab. -/
def hasWithdrawRights (g : Guild) (player : Guid) (tabId : BitVec 8) : Bool :=
  match g.getMember player with
  | some member => g.getMemberRemainingSlots member tabId != 0
  | none => false

inductive GuardedAction where
  | setMOTD
  | invite
  | remove
  | promote
  | demote
  | setPublicNote
  | setOfficerNote
  /-- Withdraw an amount of gold. -/
  | withdrawMoney (money : BitVec 32)
  /-- Withdraw an item from a tab. -/
  | withdrawItem (tabId : BitVec 8)
  deriving DecidableEq

namespace GuardedAction

/-- The mask a roster command tests; the bank's actions have none. -/
def rosterMask : GuardedAction → Option (BitVec 32)
  | setMOTD => some grRightSetmotd
  | invite => some grRightInvite
  | remove => some grRightRemove
  | promote => some grRightPromote
  | demote => some grRightDemote
  | setPublicNote => some grRightEpnote
  | setOfficerNote => some grRightEoffnote
  | withdrawMoney _ => none
  | withdrawItem _ => none

/-- Does the guild let the player do the action? -/
def allowed (g : Guild) (player : Guid) : GuardedAction → Bool
  | setMOTD => g.hasRankRight player grRightSetmotd
  | invite => g.hasRankRight player grRightInvite
  | remove => g.hasRankRight player grRightRemove
  | promote => g.hasRankRight player grRightPromote
  | demote => g.hasRankRight player grRightDemote
  | setPublicNote => g.hasRankRight player grRightEpnote
  | setOfficerNote => g.hasRankRight player grRightEoffnote
  | withdrawMoney money => money != 0 && g.canWithdrawMoney player money
  | withdrawItem tabId => g.hasWithdrawRights player tabId

/-- The bit of the action in a rank: of a roster command its mask's bit beyond `grRightEmpty`,
and for the bank `grRightWithdrawGold` and the tab's `guildBankRightViewTab`. -/
def hasBit (r : RankInfo) : GuardedAction → Bool
  | withdrawMoney _ => r.rights &&& grRightWithdrawGold != 0
  | withdrawItem tabId => r.getBankTabRights tabId &&& guildBankRightViewTab != 0
  | a => r.rights &&& ((a.rosterMask.getD 0) &&& ~~~grRightEmpty) != 0

end GuardedAction

/-- **Granted**: the member's rank exists, and contains the action's bit. -/
def Granted (g : Guild) (member : Member) (a : GuardedAction) : Prop :=
  ∃ r, g.getRankInfo member.rankId = some r ∧ a.hasBit r = true

/-! ## The test of the roster commands -/

/-- The place of the bit `grRightEmpty`. -/
def emptyBit : ℕ := 6

theorem grRightEmpty_eq_twoPow : grRightEmpty = BitVec.twoPow 32 emptyBit := by decide

theorem rosterMask_eq {a : GuardedAction} {mask : BitVec 32} (h : a.rosterMask = some mask) :
    ∃ k, k < 32 ∧ k ≠ emptyBit ∧ mask = grRightEmpty ||| BitVec.twoPow 32 k ∧
      mask &&& ~~~grRightEmpty = BitVec.twoPow 32 k := by
  cases a <;> cases h
  · exact ⟨12, by decide⟩
  · exact ⟨4, by decide⟩
  · exact ⟨5, by decide⟩
  · exact ⟨7, by decide⟩
  · exact ⟨8, by decide⟩
  · exact ⟨13, by decide⟩
  · exact ⟨15, by decide⟩

theorem and_twoPow_ne_zero_iff (x : BitVec 32) {k : ℕ} (hk : k < 32) :
    x &&& BitVec.twoPow 32 k ≠ 0 ↔ x.getLsbD k = true := by
  rw [BitVec.and_twoPow]
  cases x.getLsbD k with
  | false => simp
  | true =>
    simp only [if_true, ne_eq, iff_true]
    intro h
    have := congrArg (fun y : BitVec 32 => y.getLsbD k) h
    simp [hk] at this

/-- **What a roster test tests**: of the bits `grRightEmpty` and `k`, a mask with the first
alone fails it, and every other passes. -/
theorem and_rosterMask_ne_grRightEmpty_iff (x : BitVec 32) {k : ℕ} (hk : k < 32)
    (hne : k ≠ emptyBit) :
    x &&& (grRightEmpty ||| BitVec.twoPow 32 k) ≠ grRightEmpty ↔
      x.getLsbD emptyBit = false ∨ x.getLsbD k = true := by
  have hbit : (grRightEmpty).getLsbD k = false := by
    rw [grRightEmpty_eq_twoPow, BitVec.getLsbD_twoPow]
    simp [Ne.symm hne]
  have hself : (grRightEmpty).getLsbD emptyBit = true := by decide
  constructor
  · intro h
    by_contra hnot
    rw [not_or, Bool.not_eq_false, Bool.not_eq_true] at hnot
    refine h ?_
    rw [BitVec.and_or_distrib_left, grRightEmpty_eq_twoPow, BitVec.and_twoPow, if_pos hnot.1,
      BitVec.and_twoPow, hnot.2]
    exact BitVec.or_zero
  · intro h heq
    have hget : ∀ i, (x.getLsbD i && (grRightEmpty.getLsbD i ||
        (BitVec.twoPow 32 k).getLsbD i)) = grRightEmpty.getLsbD i := fun i => by
      rw [← BitVec.getLsbD_or, ← BitVec.getLsbD_and, heq]
    rcases h with h | h
    · have := hget emptyBit
      rw [h, hself] at this
      cases this
    · have := hget k
      rw [h, hbit, BitVec.getLsbD_twoPow] at this
      simp [hk] at this

section Member

variable {g : Guild} {player : Guid} {member : Member}

theorem hasRankRight_eq (hm : g.getMember player = some member) (right : BitVec 32) :
    g.hasRankRight player right = true ↔
      g.getRankRights member.rankId &&& right ≠ grRightEmpty := by
  simp [hasRankRight, hm]

variable {a : GuardedAction} {mask : BitVec 32}

theorem allowed_roster (h : a.rosterMask = some mask) :
    a.allowed g player = g.hasRankRight player mask := by
  cases a <;> cases h <;> rfl

theorem hasBit_roster (h : a.rosterMask = some mask)
    (r : RankInfo) : a.hasBit r = (r.rights &&& (mask &&& ~~~grRightEmpty) != 0) := by
  cases a <;> cases h <;> rfl

/-- A roster command is allowed only where it is granted exactly when the rank exists and its
mask has `grRightEmpty` or the command's bit. -/
theorem roster_granted_of_allowed_iff (hm : g.getMember player = some member)
    (h : a.rosterMask = some mask) :
    (a.allowed g player = true → Granted g member a) ↔
      ∃ r, g.getRankInfo member.rankId = some r ∧
        (r.rights &&& grRightEmpty ≠ 0 ∨ a.hasBit r = true) := by
  obtain ⟨k, hk, hne, hmask, hbit⟩ := rosterMask_eq h
  rw [allowed_roster h, hasRankRight_eq hm, hmask, and_rosterMask_ne_grRightEmpty_iff _ hk hne]
  cases hr : g.getRankInfo member.rankId with
  | none => simp [Granted, getRankRights, hr]
  | some r =>
    have hgrant : a.hasBit r = true ↔ r.rights.getLsbD k = true := by
      rw [hasBit_roster h, hbit, bne_iff_ne, and_twoPow_ne_zero_iff _ hk]
    have hempty : r.rights &&& grRightEmpty ≠ 0 ↔ r.rights.getLsbD emptyBit = true := by
      rw [grRightEmpty_eq_twoPow, and_twoPow_ne_zero_iff _ (by decide)]
    simp only [Granted, getRankRights, hr, Option.map_some, Option.getD_some,
      Option.some.injEq, exists_eq_left', hgrant, hempty]
    cases r.rights.getLsbD emptyBit <;> cases r.rights.getLsbD k <;> simp

/-! ## The tests of the bank -/

theorem and_ne_grRightEmpty (x : BitVec 32)
    (hmask : mask.getLsbD emptyBit = false) : x &&& mask ≠ grRightEmpty := by
  intro h
  have hbit : (x &&& mask).getLsbD emptyBit = grRightEmpty.getLsbD emptyBit := by rw [h]
  rw [BitVec.getLsbD_and, hmask, Bool.and_false] at hbit
  exact absurd hbit (by decide)

theorem remainingOf_toNat (perDay withdrawn : BitVec 32) :
    (remainingOf perDay withdrawn).toNat = (perDay - withdrawn).toInt.toNat := by
  unfold remainingOf
  simp only [BitVec.slt_iff_toInt_lt]
  have hzero : (0 : BitVec 32).toInt = 0 := by decide
  rw [hzero]
  generalize perDay - withdrawn = remaining
  have hint := BitVec.toInt_eq_toNat_cond remaining
  split_ifs with h
  · split_ifs at hint <;> omega
  · rw [Int.toNat_of_nonpos (by omega)]
    rfl

theorem getBankWithdrawValue_of_ne (hr : member.rankId ≠ grGuildmaster)
    (i : Fin (guildBankMaxTabs + 1)) : member.getBankWithdrawValue i = member.bankWithdraw i := by
  simp [Member.getBankWithdrawValue, Member.isRank, hr]

/-- The day's money allowance that is left, as a signed number. -/
def moneyAllowance (g : Guild) (member : Member) : ℤ :=
  (g.getRankBankMoneyPerDay member.rankId - member.bankWithdraw moneyCounter).toInt

/-- The day's allowance of items from a tab that is left, as a signed number; none from a tab
that cannot exist. -/
def slotAllowance (g : Guild) (member : Member) (tabId : BitVec 8) : ℤ :=
  if h : tabId.toNat < guildBankMaxTabs then
    (g.getRankBankTabSlotsPerDay member.rankId tabId -
      member.bankWithdraw (tabCounter tabId h)).toInt
  else 0

/-- **The gold right is never asked for**: what limits a withdrawal is the day's allowance. -/
theorem getMemberRemainingMoney_toNat (hr : member.rankId ≠ grGuildmaster) :
    (g.getMemberRemainingMoney member).toNat = (g.moneyAllowance member).toNat := by
  have hmask : (grRightWithdrawRepair ||| grRightWithdrawGold).getLsbD emptyBit = false := by
    decide
  rw [getMemberRemainingMoney, if_neg hr, if_pos (and_ne_grRightEmpty _ hmask),
    remainingOf_toNat, getBankWithdrawValue_of_ne hr, moneyAllowance]

/-- **The view right is never asked for**: what limits taking items from a tab is the day's
number. -/
theorem getMemberRemainingSlots_toNat (hr : member.rankId ≠ grGuildmaster) (tabId : BitVec 8) :
    (g.getMemberRemainingSlots member tabId).toNat = (g.slotAllowance member tabId).toNat := by
  have hmask : (guildBankRightViewTab.zeroExtend 32).getLsbD emptyBit = false := by decide
  rw [getMemberRemainingSlots, if_neg hr, if_pos (and_ne_grRightEmpty _ hmask), slotAllowance]
  split_ifs with h
  · rw [remainingOf_toNat, getBankWithdrawValue_of_ne hr]
  · rfl

theorem allowed_withdrawMoney_iff (hm : g.getMember player = some member)
    (hr : member.rankId ≠ grGuildmaster) (money : BitVec 32) :
    (GuardedAction.withdrawMoney money).allowed g player = true ↔
      money ≠ 0 ∧ money.toNat ≤ g.bankMoney.toNat ∧
        (money.toNat : ℤ) ≤ g.moneyAllowance member := by
  have hpos : money ≠ 0 → 0 < money.toNat := fun hne => by
    rcases Nat.eq_zero_or_pos money.toNat with h | h
    · exact absurd (BitVec.eq_of_toNat_eq (by simpa using h)) hne
    · exact h
  simp only [GuardedAction.allowed, canWithdrawMoney, hm, Bool.and_eq_true, bne_iff_ne,
    Bool.not_eq_true', decide_eq_false_iff_not, BitVec.lt_def, setWidth_toNat,
    getMemberRemainingMoney_toNat hr, not_lt]
  refine and_congr_right fun hne => and_congr_right fun _ => ?_
  have := hpos hne
  omega

theorem allowed_withdrawItem_iff (hm : g.getMember player = some member)
    (hr : member.rankId ≠ grGuildmaster) (tabId : BitVec 8) :
    (GuardedAction.withdrawItem tabId).allowed g player = true ↔
      0 < g.slotAllowance member tabId := by
  simp only [GuardedAction.allowed, hasWithdrawRights, hm, bne_iff_ne, ne_eq]
  rw [← BitVec.toNat_inj, getMemberRemainingSlots_toNat hr]
  simp

end Member

/-! ## The commands -/

section Commands

variable {g : Guild} {player : Guid}

theorem handleSetMOTD_allowed {motd : String} (h : (g.handleSetMOTD player motd).2 ≠ g) :
    GuardedAction.setMOTD.allowed g player = true := by
  by_contra hnot
  have hright : g.hasRankRight player grRightSetmotd = false := Bool.eq_false_of_not_eq_true hnot
  simp only [handleSetMOTD, hright, Bool.not_false, if_true] at h
  split_ifs at h <;> exact h rfl

theorem handleInviteMember_allowed {allowTwoSide : Bool} {invitee : Option Invitee}
    (h : (g.handleInviteMember player allowTwoSide invitee).2 ≠ invitee) :
    GuardedAction.invite.allowed g player = true := by
  by_contra hnot
  have hright : g.hasRankRight player grRightInvite = false := Bool.eq_false_of_not_eq_true hnot
  cases invitee with
  | none => exact h rfl
  | some i =>
    simp only [handleInviteMember, hright, Bool.not_false, if_true] at h
    split_ifs at h <;> exact h rfl

theorem handleRemoveMember_allowed {name : String}
    (h : (g.handleRemoveMember player name).2 ≠ some g) :
    GuardedAction.remove.allowed g player = true := by
  by_contra hnot
  have hright : g.hasRankRight player grRightRemove = false := Bool.eq_false_of_not_eq_true hnot
  simp [handleRemoveMember, hright] at h

theorem handleUpdateMemberRank_allowed {name : String} {demote : Bool}
    (h : (g.handleUpdateMemberRank player name demote).2 ≠ g) :
    (if demote then GuardedAction.demote else .promote).allowed g player = true := by
  by_contra hnot
  have hright :
      g.hasRankRight player (if demote then grRightDemote else grRightPromote) = false := by
    cases demote <;> exact Bool.eq_false_of_not_eq_true hnot
  simp [handleUpdateMemberRank, hright] at h

theorem handleSetMemberNote_allowed {name note : String} {isPublic : Bool}
    (h : (g.handleSetMemberNote player name note isPublic).2 ≠ g) :
    (if isPublic then GuardedAction.setPublicNote
      else .setOfficerNote).allowed g player = true := by
  by_contra hnot
  have hright : g.hasRankRight player (if isPublic then grRightEpnote else grRightEoffnote) =
      false := by
    cases isPublic <;> exact Bool.eq_false_of_not_eq_true hnot
  simp [handleSetMemberNote, hright] at h

end Commands

/-! ## When the rights are what they say -/

/-- **When an action is allowed only where it is granted**: for a roster command, the rank
exists and its mask has `grRightEmpty` or the command's bit; for the bank, the right is there,
or nothing could be taken anyway. -/
def RightsMeanWhatTheySay (g : Guild) (member : Member) : GuardedAction → Prop
  | .withdrawMoney money =>
    Granted g member (.withdrawMoney money) ∨ money = 0 ∨ g.bankMoney.toNat < money.toNat ∨
      g.moneyAllowance member < money.toNat
  | .withdrawItem tabId =>
    Granted g member (.withdrawItem tabId) ∨ g.slotAllowance member tabId ≤ 0
  | a => ∃ r, g.getRankInfo member.rankId = some r ∧
      (r.rights &&& grRightEmpty ≠ 0 ∨ a.hasBit r = true)

/-- **Permissions.** A member below the guild master is allowed an action only where it is
granted exactly when `RightsMeanWhatTheySay`. -/
theorem granted_of_allowed_iff (g : Guild) (player : Guid) (member : Member)
    (hm : g.getMember player = some member) (hr : member.rankId ≠ grGuildmaster)
    (a : GuardedAction) :
    (a.allowed g player = true → Granted g member a) ↔ RightsMeanWhatTheySay g member a := by
  cases a with
  | withdrawMoney money =>
    rw [allowed_withdrawMoney_iff hm hr, RightsMeanWhatTheySay]
    by_cases hg : Granted g member (.withdrawMoney money)
    · simp [hg]
    · simp only [hg, imp_false, false_or, not_and_or, ne_eq, not_not, not_le]
  | withdrawItem tabId =>
    rw [allowed_withdrawItem_iff hm hr, RightsMeanWhatTheySay]
    by_cases hg : Granted g member (.withdrawItem tabId)
    · simp [hg]
    · simp [hg]
  | _ => exact roster_granted_of_allowed_iff hm rfl

/-- A guild master, player `1`, and an initiate, player `2`, whose rank may listen and speak in
the guild chat and invite; the guild master has given the rank 1 gold a day. -/
def chattyGuild : Guild :=
  let member (guid : Guid) (rankId : BitVec 8) : Member := ⟨guid, "", rankId, "", "", fun _ => 0⟩
  let rank (rankId : BitVec 8) (rights : BitVec 32) : RankInfo :=
    ⟨rankId, "", rights, 0, fun i => ⟨BitVec.ofNat 8 i, 0, 0⟩⟩
  let g : Guild :=
    { id := 1
      leaderGuid := 1
      motd := ""
      ranks := [rank 0 grRightAll, rank 1 0]
      members := (OrderedMap.empty.set 1 (member 1 0)).set 2 (member 2 1)
      purchasedTabs := 0
      bankMoney := 1000000 }
  let rights := grRightGchatlisten ||| grRightGchatspeak ||| grRightInvite
  (g.handleSetRankInfo 1 1 "Initiate" rights 10000 []).2

/-- The initiate may invite: the rank has the bit. -/
theorem granted_of_allowed_iff_invite :
    Granted chattyGuild ⟨2, "", 1, "", "", fun _ => 0⟩ .invite :=
  (granted_of_allowed_iff chattyGuild 2 ⟨2, "", 1, "", "", fun _ => 0⟩ rfl (by decide)
    .invite).mpr ⟨_, rfl, by decide⟩ (by decide)

/-- The initiate withdraws 1 gold, a right the rank does not have. -/
theorem withdrawMoney_allowed_not_granted :
    ¬ ∀ (g : Guild) (player : Guid) (member : Member), g.getMember player = some member →
      member.rankId ≠ grGuildmaster → ∀ a : GuardedAction,
        a.allowed g player = true → Granted g member a := by
  intro h
  obtain ⟨r, hr, hbit⟩ := h chattyGuild 2 ⟨2, "", 1, "", "", fun _ => 0⟩ rfl (by decide)
    (.withdrawMoney 10000) (by decide)
  cases hr
  revert hbit
  decide

end Guild

end TeraCore
