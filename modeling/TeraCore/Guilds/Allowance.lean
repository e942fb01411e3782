import TeraCore.Commons.Meter
import TeraCore.Guilds.BankInventory
import TeraCore.Guilds.Hierarchy

/-!
# Guilds: the daily allowance

A rank has a daily limit of money, and for every tab of the bank a daily number of items.  A member
has a counter for each, which is one for all ranks the member holds in the course of a day, and a
signed word.  A withdrawal looks at the limit of the rank and at the counter.

The items that a guild master takes are not counted, but the money is: the counter can run over and
be negative, and the limit of the next rank does not hold any more.

## Main results

* `Guild.remainingOf_room`: what remains, while the counter is not negative
* `BankDay.withinAllowance_run`: the allowance holds on every day on which no counter runs over
-/

namespace TeraCore

open Commons

namespace Guild

/-! ## A new day -/

def Member.resetValues (m : Member) : Member := { m with bankWithdraw := fun _ => 0 }

def resetTimes (g : Guild) : Guild :=
  { g with members := g.members.mapVals fun _ m => m.resetValues }

/-- The rank a player holds, the guild master's for somebody who is no member. -/
def rankIdOf (g : Guild) (player : Guid) : BitVec 8 :=
  (g.getMember player).elim grGuildmaster Member.rankId

end Guild

/-- A withdrawal: by whom, at which rank, what is counted, and how much. -/
structure Withdrawal where
  member : ℕ
  rankId : BitVec 8
  counter : Fin (guildBankMaxTabs + 1)
  amount : ℕ
  deriving DecidableEq

/-- **A day of the bank**: the bank, and what has been withdrawn. -/
structure BankDay where
  bank : GuildBank
  log : List Withdrawal

/-- What happens in the course of a day. -/
inductive BankDayOp where
  | updateMemberRank (player : Guid) (name : String) (demote : Bool)
  | setLeader (player : Guid) (name : String)
  | depositMoney (player : Player) (amount : BitVec 32)
  | withdrawMoney (player : Player) (amount : BitVec 32) (repair : Bool)
  | swapItems (player : Guid) (src dest : BankSlot) (splitedAmount : ℕ)
  | swapItemsWithInventory (player : Guid) (toChar : Bool) (tab : Fin guildBankMaxTabs)
      (slot : Option (Fin guildBankMaxSlots)) (side : InventorySide) (splitedAmount : ℕ)

namespace BankDay

open Guild

/-- The day begins. -/
def start (b : GuildBank) : BankDay := ⟨{ b with guild := b.guild.resetTimes }, []⟩

/-- The guild has changed. -/
def setGuild (s : BankDay) (g : Guild) : BankDay := { s with bank := { s.bank with guild := g } }

/-- A player has moved items, and withdrawn one from each of the tabs. -/
def moved (s : BankDay) (player : Guid) (b : GuildBank × List (Fin guildBankMaxTabs)) : BankDay :=
  ⟨b.1, s.log ++ b.2.map fun tab =>
    ⟨guidLopart player, s.bank.guild.rankIdOf player, tab.castSucc, 1⟩⟩

def step (proto : ℕ → ItemTemplate) (s : BankDay) : BankDayOp → BankDay
  | .updateMemberRank player name demote =>
    s.setGuild (s.bank.guild.handleUpdateMemberRank player name demote).2
  | .setLeader player name => s.setGuild (s.bank.guild.handleSetLeader player name).2
  | .depositMoney player amount =>
    s.setGuild (s.bank.guild.handleMemberDepositMoney player amount).1
  | .withdrawMoney player amount repair =>
    let (done, g, _) := s.bank.guild.handleMemberWithdrawMoney player amount repair
    if done then
      ⟨{ s.bank with guild := g }, s.log ++ [⟨guidLopart player.guid,
        s.bank.guild.rankIdOf player.guid, moneyCounter, amount.toNat⟩]⟩
    else s.setGuild g
  | .swapItems player src dest splitedAmount =>
    s.moved player (s.bank.swapItems proto player src dest splitedAmount,
      s.bank.swapItemsWithdraws proto player src dest splitedAmount)
  | .swapItemsWithInventory player toChar tab slot side splitedAmount =>
    s.moved player (s.bank.swapItemsWithInventory proto player toChar tab slot side splitedAmount)

/-! ## The allowance -/

/-- What a member has withdrawn of one kind, by the rank held then.  The guild master's rank is
left out. -/
def taken (log : List Withdrawal) (member : ℕ) (counter : Fin (guildBankMaxTabs + 1)) :
    List (BitVec 8 × ℕ) :=
  (log.filter fun w => w.member = member && w.counter = counter && w.rankId ≠ grGuildmaster).map
    fun w => (w.rankId, w.amount)

/-- **No member has withdrawn more at a rank than the rank may**, but for the guild master's rank
and for money limits that are negative. -/
structure WithinAllowance (s : BankDay) : Prop where
  money : ∀ member rankId, rankId ≠ grGuildmaster →
    (s.bank.guild.getRankBankMoneyPerDay rankId).msb = false →
    Meter.spentAs (taken s.log member moneyCounter) rankId ≤
      (s.bank.guild.getRankBankMoneyPerDay rankId).toNat
  slots : ∀ member rankId (tab : Fin guildBankMaxTabs), rankId ≠ grGuildmaster →
    Meter.spentAs (taken s.log member tab.castSucc) rankId ≤
      (s.bank.guild.getRankBankTabSlotsPerDay rankId (GuildBank.tabId tab)).toNat

/-- The player may not take items out of a tab if the rank's number there is a negative one. -/
def SlotsMetered (g : Guild) (player : Guid) (tab : Fin guildBankMaxTabs) : Prop :=
  ∀ m ∈ g.getMember player, m.rankId ≠ grGuildmaster →
    (g.getRankBankTabSlotsPerDay m.rankId (GuildBank.tabId tab)).msb = true →
    g.getMemberRemainingSlots m (GuildBank.tabId tab) = 0

instance (g : Guild) (player : Guid) (tab : Fin guildBankMaxTabs) :
    Decidable (SlotsMetered g player tab) :=
  inferInstanceAs (Decidable (∀ m ∈ g.getMember player, _))

/-- **No counter runs over**: a guild master, or somebody with a negative money limit, withdraws
money only while the counter, with it, is not negative; nobody takes items under a negative
number. -/
def Metered (s : BankDay) : BankDayOp → Prop
  | .withdrawMoney player amount _ => ∀ m ∈ s.bank.guild.getMember player.guid,
      m.rankId = grGuildmaster ∨ (s.bank.guild.getRankBankMoneyPerDay m.rankId).msb = true →
      s.bank.guild.canWithdrawMoney player.guid amount = true →
      (m.bankWithdraw moneyCounter).toNat + amount.toNat < 2 ^ 31
  | .swapItems player src dest _ => src.1 ≠ dest.1 →
      SlotsMetered s.bank.guild player src.1 ∧ SlotsMetered s.bank.guild player dest.1
  | .swapItemsWithInventory player _ tab _ _ _ => SlotsMetered s.bank.guild player tab
  | .updateMemberRank .. | .setLeader .. | .depositMoney .. => True

instance (s : BankDay) (op : BankDayOp) : Decidable (s.Metered op) := by
  cases op <;> dsimp only [Metered] <;> infer_instance

/-! ## What remains -/

variable {amount : BitVec 32} {g g' : Guild} {m : Member} {tab : Fin guildBankMaxTabs} {s : BankDay}
  {log : List Withdrawal}

theorem remainingOf_room {limit counter : BitVec 32} (hcounter : counter.toNat < 2 ^ 31)
    (h : ¬ remainingOf limit counter < amount) :
    amount.toNat = 0 ∨ counter.toNat + amount.toNat ≤ limit.toNat := by
  unfold remainingOf at h
  dsimp only at h
  split_ifs at h with hslt
  · right
    have hzero : (0 : BitVec 32).toInt = 0 := rfl
    rw [BitVec.slt_iff_toInt_lt, hzero, BitVec.toInt_eq_toNat_cond] at hslt
    split_ifs at hslt <;> bv_omega
  · left
    bv_omega

theorem remainingOf_ne_zero {limit counter : BitVec 32} (hcounter : counter.toNat < 2 ^ 31)
    (h : remainingOf limit counter ≠ 0) :
    counter.toNat + 1 ≤ limit.toNat := by
  have hone : ¬ remainingOf limit counter < 1 := by bv_omega
  simpa using remainingOf_room hcounter hone

theorem tabId_toNat (tab : Fin guildBankMaxTabs) : (GuildBank.tabId tab).toNat = tab.val := by
  have htab : tab.val < 6 := tab.isLt
  simp only [GuildBank.tabId, BitVec.toNat_ofNat]
  omega

theorem getMemberRemainingSlots_ne_zero (hrank : m.rankId ≠ grGuildmaster)
    (h : g.getMemberRemainingSlots m (GuildBank.tabId tab) ≠ 0) :
    remainingOf (g.getRankBankTabSlotsPerDay m.rankId (GuildBank.tabId tab))
      (m.bankWithdraw tab.castSucc) ≠ 0 := by
  have htab := tabId_toNat tab
  have hlt : (GuildBank.tabId tab).toNat < guildBankMaxTabs := by
    rw [htab]
    exact tab.isLt
  have hcounter : tabCounter (GuildBank.tabId tab) hlt = tab.castSucc := Fin.ext htab
  unfold getMemberRemainingSlots at h
  rw [if_neg hrank] at h
  split_ifs at h
  · rw [hcounter, Member.getBankWithdrawValue, if_neg (by simpa [Member.isRank] using hrank)] at h
    exact h
  · exact absurd rfl h

/-! ## The invariant -/

/-- The limit of a rank on a counter, if there is one. -/
def allowance (g : Guild) (counter : Fin (guildBankMaxTabs + 1)) (rankId : BitVec 8) : Option ℕ :=
  if rankId = grGuildmaster then none
  else if h : counter.val < guildBankMaxTabs then
    some (g.getRankBankTabSlotsPerDay rankId (GuildBank.tabId ⟨counter.val, h⟩)).toNat
  else if (g.getRankBankMoneyPerDay rankId).msb then none
  else some (g.getRankBankMoneyPerDay rankId).toNat

/-- **The invariant**: no counter is negative, every counter is at least what it counts, and the
allowance holds. -/
structure Counted (g : Guild) (log : List Withdrawal) : Prop where
  keyed : g.Keyed
  small : ∀ k m, g.members.find? k = some m → ∀ counter, (m.bankWithdraw counter).toNat < 2 ^ 31
  counts : ∀ k m, g.members.find? k = some m → ∀ counter,
    Meter.spent (taken log k counter) ≤ (m.bankWithdraw counter).toNat
  within : ∀ k counter, Meter.Within (allowance g counter) (taken log k counter)

theorem allowance_money {rankId : BitVec 8} (hrank : rankId ≠ grGuildmaster) :
    allowance g moneyCounter rankId = if (g.getRankBankMoneyPerDay rankId).msb then none
      else some (g.getRankBankMoneyPerDay rankId).toNat := by
  have hlast : ¬ (moneyCounter : Fin (guildBankMaxTabs + 1)).val < guildBankMaxTabs :=
    Nat.lt_irrefl _
  rw [allowance, if_neg hrank, dif_neg hlast]

theorem allowance_slots {rankId : BitVec 8} (hrank : rankId ≠ grGuildmaster)
    (tab : Fin guildBankMaxTabs) : allowance g tab.castSucc rankId =
      some (g.getRankBankTabSlotsPerDay rankId (GuildBank.tabId tab)).toNat := by
  have htab : (tab.castSucc).val < guildBankMaxTabs := tab.isLt
  rw [allowance, if_neg hrank, dif_pos htab]
  rfl

theorem Counted.withinAllowance (h : Counted s.bank.guild s.log) :
    s.WithinAllowance where
  money k rankId hrank hmsb := h.within k moneyCounter rankId _ (by
    rw [allowance_money hrank, hmsb, if_neg Bool.false_ne_true])
  slots k rankId tab hrank := h.within k tab.castSucc rankId _ (allowance_slots hrank tab)

theorem taken_append (log log' : List Withdrawal) (k : ℕ) (counter : Fin (guildBankMaxTabs + 1)) :
    taken (log ++ log') k counter = taken log k counter ++ taken log' k counter := by
  simp [taken]

structure SameRanks (g g' : Guild) : Prop where
  ranks : g'.ranks = g.ranks
  purchasedTabs : g'.purchasedTabs = g.purchasedTabs

theorem SameRanks.perDay (h : SameRanks g g') :
    g'.getRankBankMoneyPerDay = g.getRankBankMoneyPerDay ∧
      g'.getRankBankTabSlotsPerDay = g.getRankBankTabSlotsPerDay ∧
      g'.getRankBankTabRights = g.getRankBankTabRights := by
  have hinfo : g'.getRankInfo = g.getRankInfo := by
    funext rankId
    unfold getRankInfo getRanksSize
    rw [h.ranks]
  refine ⟨?_, ?_, ?_⟩
  · funext rankId
    simp only [getRankBankMoneyPerDay, hinfo]
  · funext rankId tabId
    unfold getRankBankTabSlotsPerDay getPurchasedTabsSize
    rw [h.purchasedTabs, hinfo]
  · funext rankId tabId
    simp only [getRankBankTabRights, hinfo]

theorem SameRanks.allowance (h : SameRanks g g') :
    BankDay.allowance g' = BankDay.allowance g := by
  funext counter rankId
  simp only [BankDay.allowance, h.perDay.1, h.perDay.2.1]

section

variable (h : Counted g log)
include h

theorem Counted.of_sameRanks (hranks : SameRanks g g') (hkeyed : g'.Keyed)
    (hmembers : ∀ k m', g'.members.find? k = some m' →
      ∃ m, g.members.find? k = some m ∧ m'.bankWithdraw = m.bankWithdraw) :
    Counted g' log where
  keyed := hkeyed
  small k m' hm' counter := by
    obtain ⟨m, hm, heq⟩ := hmembers k m' hm'
    rw [heq]
    exact h.small k m hm counter
  counts k m' hm' counter := by
    obtain ⟨m, hm, heq⟩ := hmembers k m' hm'
    rw [heq]
    exact h.counts k m hm counter
  within k counter := by
    rw [hranks.allowance]
    exact h.within k counter

theorem Counted.setMember {k : ℕ} {m' : Member} (hm : g.members.find? k = some m)
    (hguid : m'.guid = m.guid) (hsame : m'.bankWithdraw = m.bankWithdraw) :
    Counted (g.setMember m') log := by
  refine h.of_sameRanks ⟨rfl, rfl⟩ (h.keyed.setMember hm hguid) fun j w hw => ?_
  rw [h.keyed.find?_setMember hm hguid] at hw
  split_ifs at hw with hj
  · cases hw
    exact ⟨m, hj ▸ hm, hsame⟩
  · exact ⟨w, hw, rfl⟩

theorem Counted.withdraw {k : ℕ} (hm : g.members.find? k = some m)
    {counter : Fin (guildBankMaxTabs + 1)}
    (hsmall : (m.bankWithdraw counter).toNat + amount.toNat < 2 ^ 31)
    (hroom : ∀ l, allowance g counter m.rankId = some l →
      amount.toNat = 0 ∨ (m.bankWithdraw counter).toNat + amount.toNat ≤ l) :
    Counted (g.setMember (m.updateBankWithdrawValue counter amount))
      (log ++ [⟨k, m.rankId, counter, amount.toNat⟩]) := by
  have hguid : (m.updateBankWithdrawValue counter amount).guid = m.guid := rfl
  have hfind := h.keyed.find?_setMember hm hguid
  have hsum : (m.bankWithdraw counter + amount).toNat =
      (m.bankWithdraw counter).toNat + amount.toNat := by
    rw [BitVec.toNat_add, Nat.mod_eq_of_lt (by omega)]
  have hranks : SameRanks g (g.setMember (m.updateBankWithdrawValue counter amount)) := ⟨rfl, rfl⟩
  -- The withdrawal is one of a member's on a counter.
  have hnew : ∀ j c, taken [⟨k, m.rankId, counter, amount.toNat⟩] j c =
      if k = j ∧ counter = c ∧ m.rankId ≠ grGuildmaster then [(m.rankId, amount.toNat)]
      else [] := by
    intro j c
    by_cases hj : k = j ∧ counter = c ∧ m.rankId ≠ grGuildmaster
    · obtain ⟨rfl, rfl, hrank⟩ := hj
      simp [taken, hrank]
    · rw [if_neg hj, taken, List.map_eq_nil_iff, List.filter_eq_nil_iff]
      simpa [and_assoc] using hj
  refine ⟨h.keyed.setMember hm hguid, fun j w hw c => ?_, fun j w hw c => ?_, fun j c => ?_⟩
  · rw [hfind] at hw
    split_ifs at hw with hj
    · cases hw
      simp only [Member.updateBankWithdrawValue]
      split_ifs with hc
      · rw [hc, hsum]
        exact hsmall
      · exact h.small k m hm c
    · exact h.small j w hw c
  · rw [hfind] at hw
    rw [taken_append, Meter.spent_append, hnew]
    split_ifs at hw with hj
    · cases hw
      subst hj
      have hold := h.counts j m hm c
      simp only [Member.updateBankWithdrawValue]
      by_cases hc : c = counter
      · subst hc
        rw [if_pos rfl, hsum]
        split_ifs
        · simpa [Meter.spent] using hold
        · simp only [Meter.spent] at hold ⊢
          simp
          omega
      · rw [if_neg hc, if_neg fun hh => hc hh.2.1.symm]
        simpa [Meter.spent] using hold
    · rw [if_neg fun hh => hj hh.1.symm]
      simpa [Meter.spent] using h.counts j w hw c
  · rw [taken_append, hnew, hranks.allowance]
    split_ifs with hh
    · obtain ⟨rfl, rfl, hrank⟩ := hh
      refine (h.within k counter).snoc fun l hl => ?_
      have hcounts := h.counts k m hm counter
      rcases hroom l hl with hzero | hle
      · exact .inl hzero
      · right
        omega
    · rw [List.append_nil]
      exact h.within j c

theorem Counted.masterWithdraws (k : ℕ) (counter : Fin (guildBankMaxTabs + 1)) (amount : ℕ) :
    Counted g (log ++ [⟨k, grGuildmaster, counter, amount⟩]) := by
  have hnew : ∀ j c, taken [⟨k, grGuildmaster, counter, amount⟩] j c = [] := by
    intro j c
    simp [taken]
  have htaken : ∀ j c,
      taken (log ++ [⟨k, grGuildmaster, counter, amount⟩]) j c = taken log j c := by
    intro j c
    rw [taken_append, hnew, List.append_nil]
  refine ⟨h.keyed, h.small, fun j m hm c => ?_, fun j c => ?_⟩
  · rw [htaken]
    exact h.counts j m hm c
  · rw [htaken]
    exact h.within j c

/-! ## Ranks and money -/

theorem Counted.handleUpdateMemberRank (player : Guid) (name : String) (demote : Bool) :
    Counted (g.handleUpdateMemberRank player name demote).2 log := by
  rcases handleUpdateMemberRank_outranks g player name demote with
    heq | ⟨m, -, rankId, hname, -, heq, -⟩
  · rwa [heq]
  · obtain ⟨k, hk⟩ := mem_of_getMemberByName hname
    rw [heq]
    exact h.setMember hk rfl rfl

theorem Counted.handleSetLeader (player : Guid) (name : String) :
    Counted (g.handleSetLeader player name).2 log := by
  unfold Guild.handleSetLeader
  by_cases hleader : (!g.isLeader player) = true
  · rwa [if_pos hleader]
  rw [if_neg hleader]
  cases hold : g.getMember player with
  | none => exact h
  | some oldLeader =>
    cases hname : g.getMemberByName name with
    | none => exact h
    | some newLeader =>
      obtain ⟨k, hk⟩ := mem_of_getMemberByName hname
      have hled : Counted (g.setLeaderGUID newLeader) log :=
        Counted.setMember (g := { g with leaderGuid := newLeader.guid })
          (h.of_sameRanks ⟨rfl, rfl⟩ h.keyed fun _ m hm => ⟨m, hm, rfl⟩) hk rfl rfl
      have hfind := h.keyed.find?_setLeaderGUID hk (guidLopart player)
      by_cases hsame : guidLopart player = k
      · rw [if_pos hsame] at hfind
        obtain rfl : newLeader = oldLeader := Option.some.inj (hk.symm.trans (hsame ▸ hold))
        exact hled.setMember hfind rfl rfl
      · rw [if_neg hsame] at hfind
        exact hled.setMember (hfind.trans hold) rfl rfl

theorem Counted.handleMemberDepositMoney (player : Player) (amount : BitVec 32) :
    Counted (g.handleMemberDepositMoney player amount).1 log :=
  h.of_sameRanks ⟨rfl, rfl⟩ h.keyed fun _ m hm => ⟨m, hm, rfl⟩

end

theorem handleMemberWithdrawMoney_guild {player : Player} (hm : g.getMember player.guid = some m)
    (hcan : g.canWithdrawMoney player.guid amount = true) (repair : Bool) :
    (g.handleMemberWithdrawMoney player amount repair).1 = true ∧
      (g.handleMemberWithdrawMoney player amount repair).2.1 =
        { g.setMember (m.updateBankWithdrawValue moneyCounter amount) with
          bankMoney := g.bankMoney - amount.setWidth 64 } := by
  unfold canWithdrawMoney at hcan
  simp only [hm, Bool.and_eq_true, Bool.not_eq_true', decide_eq_false_iff_not] at hcan
  obtain ⟨hbank, hremaining⟩ := hcan
  simp [handleMemberWithdrawMoney, hm, hbank, hremaining, modifyBankMoney]

theorem Counted.withdrawMoney (h : Counted s.bank.guild s.log)
    (proto : ℕ → ItemTemplate) (player : Player) (amount : BitVec 32) (repair : Bool)
    (hop : s.Metered (.withdrawMoney player amount repair)) :
    Counted (s.step proto (.withdrawMoney player amount repair)).bank.guild
      (s.step proto (.withdrawMoney player amount repair)).log := by
  cases hcan : s.bank.guild.canWithdrawMoney player.guid amount with
  | false =>
    simp only [step, handleMemberWithdrawMoney_refused _ _ repair hcan]
    exact h
  | true =>
    cases hm : s.bank.guild.getMember player.guid with
    | none => simp [canWithdrawMoney, hm] at hcan
    | some m =>
      obtain ⟨hdone, hguild⟩ := handleMemberWithdrawMoney_guild hm hcan repair
      have hrank : s.bank.guild.rankIdOf player.guid = m.rankId := by simp [rankIdOf, hm]
      have hstep : s.step proto (.withdrawMoney player amount repair) =
          ⟨{ s.bank with guild :=
              (s.bank.guild.handleMemberWithdrawMoney player amount repair).2.1 },
            s.log ++ [⟨guidLopart player.guid, m.rankId, moneyCounter, amount.toNat⟩]⟩ := by
        simp only [step]
        rw [if_pos hdone, hrank]
      rw [hstep]
      rw [hguild]
      have hcounter := h.small _ m hm moneyCounter
      -- What is left to show: the counter stays small, and there is room under the limit.
      suffices hroom : (m.bankWithdraw moneyCounter).toNat + amount.toNat < 2 ^ 31 ∧
          ∀ l, allowance s.bank.guild moneyCounter m.rankId = some l → amount.toNat = 0 ∨
            (m.bankWithdraw moneyCounter).toNat + amount.toNat ≤ l from
        (h.withdraw hm hroom.1 hroom.2).of_sameRanks ⟨rfl, rfl⟩ (h.keyed.setMember hm rfl)
          fun _ w hw => ⟨w, hw, rfl⟩
      by_cases hmaster : m.rankId = grGuildmaster
      · refine ⟨hop m hm (.inl hmaster) hcan, fun l hl => ?_⟩
        rw [allowance, if_pos hmaster] at hl
        cases hl
      rw [allowance_money hmaster]
      cases hmsb : (s.bank.guild.getRankBankMoneyPerDay m.rankId).msb with
      | true =>
        refine ⟨hop m hm (.inr hmsb) hcan, fun l hl => ?_⟩
        rw [if_pos rfl] at hl
        cases hl
      | false =>
        have hremaining : ¬ s.bank.guild.getMemberRemainingMoney m < amount := by
          simp only [canWithdrawMoney, hm, Bool.and_eq_true, Bool.not_eq_true',
            decide_eq_false_iff_not] at hcan
          exact hcan.2
        have hleft : amount.toNat = 0 ∨ (m.bankWithdraw moneyCounter).toNat + amount.toNat ≤
            (s.bank.guild.getRankBankMoneyPerDay m.rankId).toNat := by
          unfold getMemberRemainingMoney at hremaining
          rw [if_neg hmaster] at hremaining
          split_ifs at hremaining
          · rw [Member.getBankWithdrawValue,
              if_neg (by simpa [Member.isRank] using hmaster)] at hremaining
            exact remainingOf_room hcounter hremaining
          · left
            bv_omega
        have hlimit : (s.bank.guild.getRankBankMoneyPerDay m.rankId).toNat < 2 ^ 31 := by
          rw [BitVec.msb_eq_false_iff_two_mul_lt] at hmsb
          omega
        refine ⟨by omega, fun l hl => ?_⟩
        rw [if_neg Bool.false_ne_true] at hl
        cases hl
        exact hleft

/-! ## Items -/

theorem updateMemberWithdrawSlots_cases (g : Guild) (player : Guid) (tab : Fin guildBankMaxTabs) :
    g.updateMemberWithdrawSlots player tab = g ∨
      ∃ m, g.getMember player = some m ∧ m.rankId ≠ grGuildmaster ∧
        g.updateMemberWithdrawSlots player tab =
          g.setMember (m.updateBankWithdrawValue tab.castSucc 1) := by
  unfold updateMemberWithdrawSlots
  cases hm : g.getMember player with
  | none => exact .inl rfl
  | some m =>
    dsimp only
    split_ifs with hcounts
    · exact .inr ⟨m, rfl, hcounts.1, rfl⟩
    · exact .inl rfl

theorem Counted.withdrawItem (h : Counted g log) {player : Guid}
    (hrights : g.hasWithdrawRights player (GuildBank.tabId tab) = true)
    (hslots : SlotsMetered g player tab) :
    Counted (g.updateMemberWithdrawSlots player tab)
      (log ++ [⟨guidLopart player, g.rankIdOf player, tab.castSucc, 1⟩]) := by
  unfold hasWithdrawRights at hrights
  cases hm : g.getMember player with
  | none => simp [hm] at hrights
  | some m =>
    have hremaining : g.getMemberRemainingSlots m (GuildBank.tabId tab) ≠ 0 := by
      simpa [hm] using hrights
    have hrank : g.rankIdOf player = m.rankId := by simp [rankIdOf, hm]
    rw [hrank]
    by_cases hmaster : m.rankId = grGuildmaster
    · have hsame : g.updateMemberWithdrawSlots player tab = g := by
        simp [updateMemberWithdrawSlots, hm, hmaster]
      rw [hsame, hmaster]
      exact h.masterWithdraws _ _ _
    · have hmsb : (g.getRankBankTabSlotsPerDay m.rankId (GuildBank.tabId tab)).msb = false := by
        by_contra hneg
        exact hremaining (hslots m hm hmaster (by simpa using hneg))
      have hcounter := h.small _ m hm tab.castSucc
      have hroom := remainingOf_ne_zero hcounter
        (getMemberRemainingSlots_ne_zero hmaster hremaining)
      have hlimit :
          (g.getRankBankTabSlotsPerDay m.rankId (GuildBank.tabId tab)).toNat < 2 ^ 31 := by
        have hmsb' := hmsb
        rw [BitVec.msb_eq_false_iff_two_mul_lt] at hmsb'
        omega
      have hset : g.updateMemberWithdrawSlots player tab =
          g.setMember (m.updateBankWithdrawValue tab.castSucc 1) := by
        have hslt : (m.getBankWithdrawValue tab.castSucc).slt
            (g.getRankBankTabSlotsPerDay m.rankId (BitVec.ofNat 8 tab.val)) = true := by
          rw [Member.getBankWithdrawValue, if_neg (by simpa [Member.isRank] using hmaster),
            BitVec.slt_iff_toInt_lt, BitVec.toInt_eq_toNat_cond, BitVec.toInt_eq_toNat_cond,
            if_pos (by omega), if_pos (by change 2 * (g.getRankBankTabSlotsPerDay _
              (GuildBank.tabId tab)).toNat < _; omega)]
          change _ < ((g.getRankBankTabSlotsPerDay _ (GuildBank.tabId tab)).toNat : ℤ)
          omega
        unfold updateMemberWithdrawSlots
        rw [hm]
        exact if_pos ⟨hmaster, hslt⟩
      rw [hset]
      have hsmall : (m.bankWithdraw tab.castSucc).toNat + (1 : BitVec 32).toNat < 2 ^ 31 := by
        have hone : (1 : BitVec 32).toNat = 1 := rfl
        omega
      refine h.withdraw hm hsmall fun l hl => ?_
      rw [allowance_slots hmaster] at hl
      cases hl
      exact .inr (by simpa using hroom)

theorem remains_of_ne (hg : g.Keyed) (player : Guid) {tab' : Fin guildBankMaxTabs}
    (hne : tab' ≠ tab) :
    let g' := g.updateMemberWithdrawSlots player tab
    g'.rankIdOf player = g.rankIdOf player ∧
      g'.hasWithdrawRights player (GuildBank.tabId tab') =
        g.hasWithdrawRights player (GuildBank.tabId tab') ∧
      (SlotsMetered g player tab' → SlotsMetered g' player tab') := by
  rcases updateMemberWithdrawSlots_cases g player tab with heq | ⟨m, hm, -, heq⟩
  · rw [heq]
    exact ⟨rfl, rfl, id⟩
  have hguid : (m.updateBankWithdrawValue tab.castSucc 1).guid = m.guid := rfl
  have hm' : (g.updateMemberWithdrawSlots player tab).getMember player =
      some (m.updateBankWithdrawValue tab.castSucc 1) := by
    rw [heq, getMember, hg.find?_setMember hm hguid, if_pos rfl]
  have hranks : SameRanks g (g.updateMemberWithdrawSlots player tab) := heq ▸ ⟨rfl, rfl⟩
  -- What remains in the other tab is the same.
  have hremaining : (g.updateMemberWithdrawSlots player tab).getMemberRemainingSlots
      (m.updateBankWithdrawValue tab.castSucc 1) (GuildBank.tabId tab') =
        g.getMemberRemainingSlots m (GuildBank.tabId tab') := by
    have hcounter : ∀ h, (m.updateBankWithdrawValue tab.castSucc 1).getBankWithdrawValue
        (tabCounter (GuildBank.tabId tab') h) =
          m.getBankWithdrawValue (tabCounter (GuildBank.tabId tab') h) := by
      intro h
      have hother : tabCounter (GuildBank.tabId tab') h ≠ tab.castSucc := by
        intro heq
        have hval := congrArg Fin.val heq
        exact hne (Fin.ext ((tabId_toNat tab').symm.trans hval))
      simp [Member.getBankWithdrawValue, Member.updateBankWithdrawValue, Member.isRank, hother]
    unfold getMemberRemainingSlots
    simp only [hcounter, hranks.perDay.2.1, hranks.perDay.2.2]
    rfl
  refine ⟨?_, ?_, fun hslots w hw hrank hmsb => ?_⟩
  · simp only [rankIdOf, hm, hm']
    rfl
  · simp only [hasWithdrawRights, hm, hm', hremaining]
  · obtain rfl : m.updateBankWithdrawValue tab.castSucc 1 = w := Option.some.inj (hm'.symm.trans hw)
    rw [hremaining]
    rw [hranks.perDay.2.1] at hmsb
    exact hslots m hm hrank hmsb

/-- **A move**: items leave some tabs, each once. -/
theorem Counted.withdrawItems (h : Counted g log)
    {player : Guid} {tabs : List (Fin guildBankMaxTabs)} (hnodup : tabs.Nodup)
    (hrights : ∀ tab ∈ tabs, g.hasWithdrawRights player (GuildBank.tabId tab) = true)
    (hslots : ∀ tab ∈ tabs, SlotsMetered g player tab) :
    Counted (tabs.foldl (fun g tab => g.updateMemberWithdrawSlots player tab) g)
      (log ++ tabs.map fun tab =>
        ⟨guidLopart player, g.rankIdOf player, tab.castSucc, 1⟩) := by
  induction tabs generalizing g log with
  | nil => simpa using h
  | cons tab tabs ih =>
    obtain ⟨hnotMem, hnodup⟩ := List.nodup_cons.mp hnodup
    have hfirst := h.withdrawItem (hrights tab List.mem_cons_self) (hslots tab List.mem_cons_self)
    have hother : ∀ tab' ∈ tabs, tab' ≠ tab := fun tab' hmem heq => hnotMem (heq ▸ hmem)
    have hrest := ih hfirst hnodup
      (fun tab' hmem => by
        rw [(remains_of_ne h.keyed player (hother tab' hmem)).2.1]
        exact hrights tab' (List.mem_cons_of_mem _ hmem))
      (fun tab' hmem => (remains_of_ne h.keyed player (hother tab' hmem)).2.2
        (hslots tab' (List.mem_cons_of_mem _ hmem)))
    have hrank : ∀ tab' ∈ tabs, (g.updateMemberWithdrawSlots player tab).rankIdOf player =
        g.rankIdOf player := fun tab' hmem => (remains_of_ne h.keyed player (hother tab' hmem)).1
    have hmap : (tabs.map fun tab' => (⟨guidLopart player,
        (g.updateMemberWithdrawSlots player tab).rankIdOf player, tab'.castSucc, 1⟩ : Withdrawal)) =
        tabs.map fun tab' => ⟨guidLopart player, g.rankIdOf player, tab'.castSucc, 1⟩ :=
      List.map_congr_left fun tab' hmem => by rw [hrank tab' hmem]
    rw [hmap, List.append_assoc] at hrest
    exact hrest

theorem Counted.moveItems (h : Counted s.bank.guild s.log) {player : Guid}
    {src dest : MoveItemData} {moved : GuildBank × List (Fin guildBankMaxTabs)}
    (hmoved : GuildBank.Withdraws s.bank.guild player src dest moved)
    (hslots : ∀ tab, src.isInTab tab ≠ dest.isInTab tab → SlotsMetered s.bank.guild player tab) :
    Counted (s.moved player moved).bank.guild (s.moved player moved).log := by
  have hcounted := h.withdrawItems hmoved.nodup hmoved.rights
    fun tab hmem => hslots tab (hmoved.ends tab hmem)
  rw [← hmoved.guild] at hcounted
  exact hcounted

/-! ## The day -/

theorem Counted.step {s : BankDay} (h : Counted s.bank.guild s.log) (proto : ℕ → ItemTemplate)
    {op : BankDayOp} (hop : s.Metered op) :
    Counted (s.step proto op).bank.guild (s.step proto op).log := by
  cases op with
  | updateMemberRank player name demote => exact h.handleUpdateMemberRank player name demote
  | setLeader player name => exact h.handleSetLeader player name
  | depositMoney player amount => exact h.handleMemberDepositMoney player amount
  | withdrawMoney player amount repair => exact h.withdrawMoney proto player amount repair hop
  | swapItems player src dest splitedAmount =>
    have hmoved : GuildBank.Withdraws s.bank.guild player (.bank src.1 none) (.bank src.1 none)
        (s.bank, []) := .none rfl
    have hnone := h.moveItems hmoved fun _ hne => absurd rfl hne
    by_cases hrefused : s.bank.guild.getPurchasedTabsSize ≤ GuildBank.tabId src.1 ∨
        s.bank.guild.getPurchasedTabsSize ≤ GuildBank.tabId dest.1
    · simp only [BankDay.step, GuildBank.swapItems, GuildBank.swapItemsWithdraws, if_pos hrefused]
      exact hnone
    by_cases hsame : src = dest
    · simp only [BankDay.step, GuildBank.swapItems, GuildBank.swapItemsWithdraws, if_neg hrefused,
        if_pos hsame]
      exact hnone
    simp only [BankDay.step, GuildBank.swapItems, GuildBank.swapItemsWithdraws, if_neg hrefused,
      if_neg hsame, ← GuildBank.moveItemsBetween_bank]
    refine h.moveItems (GuildBank.moveItemsBetween_withdraws _ _ _ _ _ _) fun tab hends => ?_
    have htabs : src.1 ≠ dest.1 := fun heq => hends (by simp [MoveItemData.isInTab, heq])
    by_cases hsrc : src.1 = tab
    · exact hsrc ▸ (hop htabs).1
    · by_cases hdest : dest.1 = tab
      · exact hdest ▸ (hop htabs).2
      · exact absurd (by simp [MoveItemData.isInTab, hsrc, hdest]) hends
  | swapItemsWithInventory player toChar tab slot side splitedAmount =>
    have hother : ∀ tab', (MoveItemData.bank tab slot).isInTab tab' ≠
        (MoveItemData.inventory side).isInTab tab' → SlotsMetered s.bank.guild player tab' := by
      intro tab' hne
      by_cases htab : tab = tab'
      · exact htab ▸ hop
      · exact absurd (by simp [MoveItemData.isInTab, htab]) hne
    simp only [BankDay.step, GuildBank.swapItemsWithInventory]
    by_cases hrefused : s.bank.guild.getPurchasedTabsSize ≤ GuildBank.tabId tab
    · rw [if_pos hrefused]
      exact h.moveItems (GuildBank.Withdraws.none rfl) hother
    rw [if_neg hrefused]
    cases toChar with
    | true =>
      exact h.moveItems (GuildBank.moveItemsBetween_withdraws _ _ _ _ _ _) hother
    | false =>
      exact h.moveItems (GuildBank.moveItemsBetween_withdraws _ _ _ _ _ _)
        fun tab' hne => hother tab' hne.symm

theorem counted_start {b : GuildBank} (hb : b.guild.Keyed) :
    Counted (start b).bank.guild (start b).log := by
  have hreset : ∀ k m, (start b).bank.guild.members.find? k = some m →
      ∃ m', b.guild.members.find? k = some m' ∧ m'.resetValues = m := by
    intro k m hm
    simpa [start, resetTimes] using hm
  refine ⟨fun k m hm => ?_, fun k m hm counter => ?_, fun k m hm counter => ?_,
    fun k counter => Meter.Within.nil⟩
  · obtain ⟨m', hm', rfl⟩ := hreset k m hm
    exact hb k m' hm'
  · obtain ⟨m', -, rfl⟩ := hreset k m hm
    exact Nat.two_pow_pos 31
  · exact Nat.zero_le _

/-- **The allowance holds on every day on which no counter runs over.** -/
theorem withinAllowance_run (proto : ℕ → ItemTemplate) {b : GuildBank} (hb : b.guild.Keyed)
    (ops : List BankDayOp) (h : Admissible (step proto) Metered (start b) ops) :
    (run (step proto) (start b) ops).WithinAllowance := by
  have hcounted := run_invariant (fun s : BankDay => Counted s.bank.guild s.log)
    (fun _ _ hs hop => hs.step proto hop) (counted_start hb) h
  exact hcounted.withinAllowance

/-- A bank with plenty of money, the guild master and an officer, who may withdraw 100 copper. -/
def wealthyBank : GuildBank where
  guild :=
    { id := 1, leaderGuid := 1, motd := ""
      ranks := [⟨grGuildmaster, "Guild Master", grRightAll, guildWithdrawMoneyUnlimited,
          fun i => (⟨BitVec.ofNat 8 i, 0, 0⟩ : GuildBankRightsAndSlots).setGuildMasterValues⟩,
        ⟨grOfficer, "Officer", grRightWithdrawGold, 100, fun i => ⟨BitVec.ofNat 8 i, 1, 2⟩⟩]
      members := (OrderedMap.empty.set 1 ⟨1, "Ana", grGuildmaster, "", "", fun _ => 0⟩).set 2
        ⟨2, "Ben", grOfficer, "", "", fun _ => 0⟩
      purchasedTabs := 1, bankMoney := 5000000000 }
  items := fun _ => none
  nextItemGuid := 1

/-- The officer withdraws, the guild master withdraws and hands over, and both withdraw again. -/
def handoverDay : List BankDayOp :=
  [.withdrawMoney ⟨2, 0⟩ 60 false, .withdrawMoney ⟨1, 0⟩ 50 true, .setLeader 1 "Ben",
    .withdrawMoney ⟨1, 0⟩ 40 false, .withdrawMoney ⟨2, 0⟩ 1000 false]

theorem withinAllowance_handoverDay :
    (run (step fun _ => ⟨1, false⟩) (start wealthyBank) handoverDay).WithinAllowance :=
  withinAllowance_run _ (keyed_of_entries (by decide +kernel)) handoverDay (by decide +kernel)

/-- **The counter runs over**: the guild master withdraws 300,000 gold, hands over, and withdraws
1000 copper as an officer, who may withdraw 100. -/
theorem not_withinAllowance_run :
    ¬ ∀ (proto : ℕ → ItemTemplate) (b : GuildBank), b.guild.Keyed → ∀ ops : List BankDayOp,
      (run (step proto) (start b) ops).WithinAllowance := by
  intro h
  have hmoney := (h (fun _ => ⟨1, false⟩) wealthyBank (keyed_of_entries (by decide +kernel))
    [.withdrawMoney ⟨1, 0⟩ 3000000000 false, .setLeader 1 "Ben",
      .withdrawMoney ⟨1, 0⟩ 1000 false]).money 1 grOfficer (by decide) (by decide +kernel)
  revert hmoney
  decide +kernel

end BankDay

end TeraCore
