import TeraCore.Commons.OrderedMap
import TeraCore.Commons.OrderedSet
import TeraCore.Commons.Run

/-!
# The quest log

A player has 25 slots for quests, a status for each quest that he has or has had to do with, and the
set of the timed ones that run.  A status has counters of the items that its quest requires: copies
of what is owned, which are adjusted when items come and go.

A quest that is rewarded as soon as it is complete is rewarded inside the call that completed it.
The reward takes items and gives others, and each of them may complete a further quest; so rewards
are begun and ended by steps of their own, and the innermost ends first.

## Main definitions

* `Quest`, `QuestTemplates`, `QuestStatusData`, `QuestLog`
* `CanTakeQuest`, `CanCompleteQuest`
* `AddQuest`, `CompleteQuest`, `IncompleteQuest`, `FailQuest`, `ItemAddedQuestCheck`,
  `ItemRemovedQuestCheck`
* `step`: packets, items that come and go, and what is reported to the player
-/

namespace TeraCore.Quests

open Commons

abbrev MAX_QUEST_LOG_SIZE : ℕ := 25

abbrev QUEST_OBJECTIVES_COUNT : ℕ := 4

abbrev QUEST_ITEM_OBJECTIVES_COUNT : ℕ := 6

abbrev IN_MILLISECONDS : ℕ := 1000

/-- What is left of a number in 16 bits. -/
def to16 (n : ℕ) : ℕ := n % 2 ^ 16

/-- What is left of a number in 32 bits. -/
def to32 (n : ℕ) : ℕ := n % 2 ^ 32

inductive QuestStatus where
  | NONE | COMPLETE | INCOMPLETE | FAILED | REWARDED
deriving DecidableEq

/-! ## Quests -/

abbrev QUEST_FLAGS_PARTY_ACCEPT : BitVec 32 := 0x2

abbrev QUEST_FLAGS_AUTO_REWARDED : BitVec 32 := 0x400

abbrev QUEST_FLAGS_AUTOCOMPLETE : BitVec 32 := 0x10000

abbrev QUEST_TRINITY_FLAGS_REPEATABLE : BitVec 32 := 0x100000

abbrev QUEST_TRINITY_FLAGS_EXPLORATION_OR_EVENT : BitVec 32 := 0x200000

abbrev QUEST_TRINITY_FLAGS_DELIVER : BitVec 32 := 0x4000000

abbrev QUEST_TRINITY_FLAGS_SPEAKTO : BitVec 32 := 0x8000000

abbrev QUEST_TRINITY_FLAGS_KILL_OR_CAST : BitVec 32 := 0x10000000

abbrev QUEST_TRINITY_FLAGS_TIMED : BitVec 32 := 0x20000000

abbrev QUEST_TRINITY_FLAGS_PLAYER_KILL : BitVec 32 := 0x40000000

/-- **A quest's template.**  Whether it is complete at once, and how much money it asks for or
gives, depends on settings of the world too. -/
structure Quest where
  QuestId : ℕ
  Flags : BitVec 32
  LimitTime : ℕ
  ExclusiveGroup : ℤ
  IsAutoComplete : Bool
  RequiredItemId : Fin QUEST_ITEM_OBJECTIVES_COUNT → ℕ
  RequiredItemCount : Fin QUEST_ITEM_OBJECTIVES_COUNT → ℕ
  RequiredNpcOrGo : Fin QUEST_OBJECTIVES_COUNT → ℤ
  RequiredNpcOrGoCount : Fin QUEST_OBJECTIVES_COUNT → ℕ
  PlayersSlain : ℕ
  RewOrReqMoney : ℤ
  RepObjectiveFaction : ℕ
  RepObjectiveValue : ℤ

namespace Quest

def HasFlag (q : Quest) (flag : BitVec 32) : Bool := q.Flags &&& flag != 0

def IsRepeatable (q : Quest) : Bool := q.HasFlag QUEST_TRINITY_FLAGS_REPEATABLE

/-- The first objective that requires an item. -/
def objective? (q : Quest) (entry : ℕ) : Option (Fin QUEST_ITEM_OBJECTIVES_COUNT) :=
  (List.finRange QUEST_ITEM_OBJECTIVES_COUNT).find? fun j => q.RequiredItemId j = entry

end Quest

/-- **The quests that there are**, and their exclusive groups; 0 is no quest. -/
structure QuestTemplates where
  GetQuestTemplate : ℕ → Option Quest
  mExclusiveQuestGroups : ℤ → List ℕ
  zero : GetQuestTemplate 0 = none
  questId : ∀ id q, GetQuestTemplate id = some q → q.QuestId = id
  grouped : ∀ id q, GetQuestTemplate id = some q → q.ExclusiveGroup ≠ 0 →
    id ∈ mExclusiveQuestGroups q.ExclusiveGroup

structure QuestStatusData where
  Status : QuestStatus
  Timer : ℕ
  ItemCount : Fin QUEST_ITEM_OBJECTIVES_COUNT → ℕ
  CreatureOrGOCount : Fin QUEST_OBJECTIVES_COUNT → ℕ
  PlayerCount : ℕ
  Explored : Bool

instance : Inhabited QuestStatusData := ⟨⟨.NONE, 0, fun _ => 0, fun _ => 0, 0, false⟩⟩

/-- What else is asked about a character. -/
structure Character where
  money : ℕ
  reputation : ℕ → ℤ
  /-- The quest is not disabled, and the character has its class, race, level, skill, reputation,
  earlier quests and conditions, and has not done it lately. -/
  qualifies : ℕ → Bool
  /-- He has done the quest this day, week or season. -/
  doneLately : ℕ → Bool
  /-- The quest's source item can be stored, or he has as many as he may have. -/
  storesSourceItem : ℕ → Bool

structure QuestLog where
  /-- `GetQuestSlotQuestId` -/
  slots : Fin MAX_QUEST_LOG_SIZE → ℕ
  m_QuestStatus : OrderedMap ℕ QuestStatusData
  m_timedquests : OrderedSet ℕ
  m_RewardedQuests : OrderedSet ℕ
  /-- `GetItemCount(entry, true)` -/
  items : ℕ → ℕ
  /-- The quests whose rewards have begun, the innermost first. -/
  rewarding : List ℕ

namespace QuestLog

/-- The log of a new player, who has some items. -/
def fresh (items : ℕ → ℕ) : QuestLog := ⟨fun _ => 0, .empty, .empty, .empty, items, []⟩

variable (tmpl : QuestTemplates) (l : QuestLog) (ch : Character)

/-- The quest is in the log. -/
def InLog (id : ℕ) : Prop := ∃ i, l.slots i = id

instance (id : ℕ) : Decidable (l.InLog id) := inferInstanceAs (Decidable (∃ i, l.slots i = id))

variable (questId : ℕ)

def FindQuestSlot : Option (Fin MAX_QUEST_LOG_SIZE) :=
  (List.finRange MAX_QUEST_LOG_SIZE).find? fun i => l.slots i = questId

def SetQuestSlot (slot : Fin MAX_QUEST_LOG_SIZE) (questId : ℕ) : QuestLog :=
  { l with slots := Function.update l.slots slot questId }

/-- `m_QuestStatus[questId]`, which is made when it is not there. -/
def questStatus : QuestStatusData := l.m_QuestStatus.get questId

def setQuestStatusData (d : QuestStatusData) : QuestLog :=
  { l with m_QuestStatus := l.m_QuestStatus.set questId d }

/-! ## Tests -/

def GetQuestStatus : QuestStatus :=
  match l.m_QuestStatus.find? questId with
  | some d => d.Status
  | none =>
    if (tmpl.GetQuestTemplate questId).any (!·.IsRepeatable) ∧ questId ∈ l.m_RewardedQuests then
      .REWARDED
    else .NONE

variable (q : Quest)

def SatisfyQuestStatus : Bool := l.GetQuestStatus tmpl q.QuestId == .NONE

def SatisfyQuestTimed : Bool :=
  l.m_timedquests.elems.isEmpty || !q.HasFlag QUEST_TRINITY_FLAGS_TIMED

def SatisfyQuestExclusiveGroup : Bool :=
  if q.ExclusiveGroup ≤ 0 then true
  else (tmpl.mExclusiveQuestGroups q.ExclusiveGroup).all fun exclude_Id =>
    exclude_Id == q.QuestId ||
      (!ch.doneLately exclude_Id && l.GetQuestStatus tmpl exclude_Id == .NONE &&
        ((q.IsRepeatable && (tmpl.GetQuestTemplate exclude_Id).any (·.IsRepeatable)) ||
          exclude_Id ∉ l.m_RewardedQuests))

def CanTakeQuest : Bool :=
  ch.qualifies q.QuestId && l.SatisfyQuestStatus tmpl q &&
    l.SatisfyQuestExclusiveGroup tmpl ch q && l.SatisfyQuestTimed q

def CanAddQuest : Bool :=
  (l.FindQuestSlot 0).isSome && ch.storesSourceItem q.QuestId

/-- What `CanCompleteQuest` asks about the status of a quest. -/
def objectivesDone (d : QuestStatusData) : Bool :=
  (!q.HasFlag QUEST_TRINITY_FLAGS_DELIVER || (List.finRange QUEST_ITEM_OBJECTIVES_COUNT).all
    fun i => q.RequiredItemCount i == 0 || q.RequiredItemCount i ≤ d.ItemCount i) &&
  (!q.HasFlag (QUEST_TRINITY_FLAGS_KILL_OR_CAST ||| QUEST_TRINITY_FLAGS_SPEAKTO) ||
    (List.finRange QUEST_OBJECTIVES_COUNT).all fun i => q.RequiredNpcOrGo i == 0 ||
      q.RequiredNpcOrGoCount i == 0 || q.RequiredNpcOrGoCount i ≤ d.CreatureOrGOCount i) &&
  (!q.HasFlag QUEST_TRINITY_FLAGS_PLAYER_KILL || q.PlayersSlain == 0 ||
    q.PlayersSlain ≤ d.PlayerCount) &&
  (!q.HasFlag QUEST_TRINITY_FLAGS_EXPLORATION_OR_EVENT || d.Explored) &&
  (!q.HasFlag QUEST_TRINITY_FLAGS_TIMED || d.Timer != 0) &&
  (0 ≤ q.RewOrReqMoney || -q.RewOrReqMoney ≤ ch.money) &&
  (q.RepObjectiveFaction == 0 || q.RepObjectiveValue ≤ ch.reputation q.RepObjectiveFaction)

def CanCompleteQuest : Bool :=
  match tmpl.GetQuestTemplate questId with
  | none => false
  | some q =>
    if !q.IsRepeatable && questId ∈ l.m_RewardedQuests then false
    else if (q.IsAutoComplete || q.HasFlag QUEST_FLAGS_AUTOCOMPLETE) &&
        l.CanTakeQuest tmpl ch q then
      true
    else match l.m_QuestStatus.find? questId with
      | none => false
      | some d => d.Status == .INCOMPLETE && objectivesDone ch q d

/-! ## Changes of a quest -/

def SetQuestStatus (status : QuestStatus) : QuestLog :=
  if (tmpl.GetQuestTemplate questId).isSome then
    l.setQuestStatusData questId { l.questStatus questId with Status := status }
  else l

/-- `RewardQuest` begins.  Required items and rewards are changes that follow; that the quest runs
no more is not seen by the first of them. -/
def beginReward : QuestLog :=
  { l with
    m_timedquests := l.m_timedquests.erase questId
    rewarding := questId :: l.rewarding }

/-- `RewardQuest` ends. -/
def endReward : QuestLog :=
  match l.rewarding with
  | [] => l
  | questId :: rewarding =>
    { l with
      slots := match l.FindQuestSlot questId with
        | none => l.slots
        | some slot => Function.update l.slots slot 0
      m_QuestStatus := l.m_QuestStatus.erase questId
      m_RewardedQuests := l.m_RewardedQuests.insert questId
      rewarding := rewarding }

def CompleteQuest : QuestLog :=
  if questId = 0 then l
  else
    let l := l.SetQuestStatus tmpl questId .COMPLETE
    if (tmpl.GetQuestTemplate questId).any (·.HasFlag QUEST_FLAGS_AUTO_REWARDED) then
      l.beginReward questId
    else l

/-- The usual call of `CompleteQuest`. -/
def completeIfDone : QuestLog :=
  if l.CanCompleteQuest tmpl ch questId then l.CompleteQuest tmpl questId else l

def IncompleteQuest : QuestLog :=
  if questId = 0 then l else l.SetQuestStatus tmpl questId .INCOMPLETE

/-- `FailQuest`.  Items of the quest that are destroyed are changes that follow. -/
def FailQuest : QuestLog :=
  match tmpl.GetQuestTemplate questId with
  | none => l
  | some q =>
    let l := l.SetQuestStatus tmpl questId .FAILED
    if q.HasFlag QUEST_TRINITY_FLAGS_TIMED then
      { l.setQuestStatusData questId { l.questStatus questId with Timer := 0 } with
        m_timedquests := l.m_timedquests.erase questId }
    else l

def AdjustQuestReqItemCount (d : QuestStatusData) : QuestStatusData :=
  if q.HasFlag QUEST_TRINITY_FLAGS_DELIVER then
    { d with ItemCount := fun i =>
        if q.RequiredItemCount i ≠ 0 then
          to16 (min (l.items (q.RequiredItemId i)) (q.RequiredItemCount i))
        else d.ItemCount i }
  else d

/-- Who gives a quest: a creature, an object or an item; a player who shares it, and has some time
left for it; or the player himself. -/
inductive QuestGiver where
  | other
  | player (timer : ℕ)
  | self
deriving DecidableEq

/-- The status of a quest that is added, before its items are counted and its time is set. -/
def resetStatus (d : QuestStatusData) : QuestStatusData where
  Status := .INCOMPLETE
  Timer := d.Timer
  ItemCount := if q.HasFlag QUEST_TRINITY_FLAGS_DELIVER then fun _ => 0 else d.ItemCount
  CreatureOrGOCount :=
    if q.HasFlag (QUEST_TRINITY_FLAGS_KILL_OR_CAST ||| QUEST_TRINITY_FLAGS_SPEAKTO) then fun _ => 0
    else d.CreatureOrGOCount
  PlayerCount := if q.HasFlag QUEST_TRINITY_FLAGS_PLAYER_KILL then 0 else d.PlayerCount
  Explored := false

/-- The time that a timed quest gets, in milliseconds. -/
def timeLimit (giver : QuestGiver) : ℕ :=
  match giver with
  | .other => to32 (q.LimitTime * IN_MILLISECONDS)
  | .player timer => to32 (timer / IN_MILLISECONDS * IN_MILLISECONDS)
  | .self => to32 ((l.questStatus q.QuestId).Timer / IN_MILLISECONDS * IN_MILLISECONDS)

/-- **`AddQuest`.**  The source item is a change that has been made before. -/
def AddQuest (giver : QuestGiver) : QuestLog :=
  match l.FindQuestSlot 0 with
  | none => l
  | some slot =>
    let d := l.AdjustQuestReqItemCount q (resetStatus q (l.questStatus q.QuestId))
    if q.HasFlag QUEST_TRINITY_FLAGS_TIMED then
      ({ l with m_timedquests := l.m_timedquests.insert q.QuestId }.setQuestStatusData q.QuestId
        { d with Timer := l.timeLimit q giver }).SetQuestSlot slot q.QuestId
    else
      (l.setQuestStatusData q.QuestId { d with Timer := 0 }).SetQuestSlot slot q.QuestId

/-! ## Items -/

def objectiveFor (questId entry : ℕ) : Option (Quest × Fin QUEST_ITEM_OBJECTIVES_COUNT) :=
  match tmpl.GetQuestTemplate questId with
  | none => none
  | some q =>
    if q.HasFlag QUEST_TRINITY_FLAGS_DELIVER then (q.objective? entry).map fun j => (q, j) else none

/-- Items are added to a counter that is not full. -/
def addToCounter (j : Fin QUEST_ITEM_OBJECTIVES_COUNT) (count : ℕ) (d : QuestStatusData) :
    QuestStatusData :=
  let reqitemcount := q.RequiredItemCount j
  let curitemcount := d.ItemCount j
  if curitemcount < reqitemcount then
    let additemcount :=
      to16 (if to32 (curitemcount + count) ≤ reqitemcount then count
        else reqitemcount - curitemcount)
    { d with ItemCount := Function.update d.ItemCount j (to16 (curitemcount + additemcount)) }
  else d

variable (entry count : ℕ)

/-- The loop of `ItemAddedQuestCheck`. -/
def itemAddedLoop (entry count : ℕ) : List (Fin MAX_QUEST_LOG_SIZE) → QuestLog → QuestLog
  | [], l => l
  | i :: slots, l =>
    let questid := l.slots i
    if questid = 0 then itemAddedLoop entry count slots l
    else
      let q_status := l.questStatus questid
      let l := l.setQuestStatusData questid q_status
      if q_status.Status ≠ .INCOMPLETE then itemAddedLoop entry count slots l
      else match objectiveFor tmpl questid entry with
        | none => itemAddedLoop entry count slots l
        | some (q, j) =>
          (l.setQuestStatusData questid (addToCounter q j count q_status)).completeIfDone
            tmpl ch questid

def ItemAddedQuestCheck : QuestLog :=
  itemAddedLoop tmpl ch entry count (List.finRange MAX_QUEST_LOG_SIZE) l

/-- Items are taken from a counter, or from what is owned when the quest is complete. -/
def takeFromCounter (questid : ℕ) (q : Quest) (j : Fin QUEST_ITEM_OBJECTIVES_COUNT)
    (entry count : ℕ) : QuestLog :=
  let q_status := l.questStatus questid
  let l := l.setQuestStatusData questid q_status
  let reqitemcount := q.RequiredItemCount j
  let curitemcount :=
    if q_status.Status ≠ .COMPLETE then q_status.ItemCount j else to16 (l.items entry)
  if curitemcount < to32 (reqitemcount + count) then
    let remitemcount :=
      to16 (if curitemcount ≤ reqitemcount then count else count + reqitemcount - curitemcount)
    let left := if curitemcount ≤ remitemcount then 0 else curitemcount - remitemcount
    (l.setQuestStatusData questid
      { q_status with ItemCount := Function.update q_status.ItemCount j left }).IncompleteQuest
        tmpl questid
  else l

/-- The loop of `ItemRemovedQuestCheck`. -/
def itemRemovedLoop (entry count : ℕ) : List (Fin MAX_QUEST_LOG_SIZE) → QuestLog
  | [] => l
  | i :: slots =>
    if l.slots i = 0 then itemRemovedLoop entry count slots
    else match objectiveFor tmpl (l.slots i) entry with
      | none => itemRemovedLoop entry count slots
      | some (q, j) => l.takeFromCounter tmpl (l.slots i) q j entry count

def ItemRemovedQuestCheck : QuestLog :=
  l.itemRemovedLoop tmpl entry count (List.finRange MAX_QUEST_LOG_SIZE)

/-- **Items come**, and it is reported. -/
def gain : QuestLog :=
  { l with items := Function.update l.items entry (l.items entry + count) }.ItemAddedQuestCheck
    tmpl ch entry count

/-- **Items go**, after it was reported. -/
def lose : QuestLog :=
  let l := l.ItemRemovedQuestCheck tmpl entry count
  { l with items := Function.update l.items entry (l.items entry - count) }

/-! ## Other objectives, and time -/

/-- Something other than an item counts for a quest of the log; then the quest may be complete. -/
def credit (creatures : Fin QUEST_OBJECTIVES_COUNT → ℕ) (players : ℕ) (explored : Bool) :
    QuestLog :=
  if questId = 0 then l
  else
    let l := if l.InLog questId then
        l.setQuestStatusData questId { l.questStatus questId with
          CreatureOrGOCount := creatures
          PlayerCount := players
          Explored := explored }
      else l
    l.completeIfDone tmpl ch questId

/-- A complete quest of the log lacks money or reputation again. -/
def lack : QuestLog :=
  if questId ≠ 0 ∧ l.InLog questId ∧ (tmpl.GetQuestTemplate questId).isSome ∧
      (l.questStatus questId).Status = .COMPLETE then
    l.IncompleteQuest tmpl questId
  else l

/-- A timed quest in `Player::Update`. -/
def updateTimer (p_time : ℕ) (l : QuestLog) (questId : ℕ) : QuestLog :=
  let q_status := l.questStatus questId
  let l := l.setQuestStatusData questId q_status
  if q_status.Timer ≤ p_time then l.FailQuest tmpl questId
  else l.setQuestStatusData questId { q_status with Timer := q_status.Timer - p_time }

/-- The timed quests in `Player::Update`. -/
def updateTimers (p_time : ℕ) : QuestLog := l.m_timedquests.elems.foldl (updateTimer tmpl p_time) l

/-! ## Packets -/

/-- A quest is accepted from a giver, or accepts itself when it is shown. -/
def acceptQuest (giver : QuestGiver) : QuestLog :=
  match tmpl.GetQuestTemplate questId with
  | none => l
  | some q =>
    if l.CanTakeQuest tmpl ch q && l.CanAddQuest ch q then
      (l.AddQuest q giver).completeIfDone tmpl ch questId
    else l

/-- `HandleQuestConfirmAccept`; is the player in the group or the raid of the one who shares the
quest? -/
def HandleQuestConfirmAccept (sameGroup : Bool) : QuestLog :=
  match tmpl.GetQuestTemplate questId with
  | none => l
  | some q =>
    if q.HasFlag QUEST_FLAGS_PARTY_ACCEPT && sameGroup && l.CanAddQuest ch q then
      l.AddQuest q .other
    else l

def SwapQuestSlot (slot1 slot2 : Fin MAX_QUEST_LOG_SIZE) : QuestLog :=
  { l with
    slots := Function.update (Function.update l.slots slot1 (l.slots slot2)) slot2 (l.slots slot1) }

def HandleQuestLogSwapQuest (slot1 slot2 : ℕ) : QuestLog :=
  if h : slot1 < MAX_QUEST_LOG_SIZE ∧ slot2 < MAX_QUEST_LOG_SIZE ∧ slot1 ≠ slot2 then
    l.SwapQuestSlot ⟨slot1, h.1⟩ ⟨slot2, h.2.1⟩
  else l

/-- `HandleQuestLogRemoveQuest`, when the source item can be taken.  Items that it destroys are
changes that have been made before. -/
def HandleQuestLogRemoveQuest (slot : ℕ) : QuestLog :=
  if h : slot < MAX_QUEST_LOG_SIZE then
    let questId := l.slots ⟨slot, h⟩
    if questId = 0 then l
    else
      let m_timedquests :=
        if (tmpl.GetQuestTemplate questId).any (·.HasFlag QUEST_TRINITY_FLAGS_TIMED) then
          l.m_timedquests.erase questId
        else l.m_timedquests
      { l with
        m_timedquests := m_timedquests
        m_QuestStatus := l.m_QuestStatus.erase questId }.SetQuestSlot ⟨slot, h⟩ 0
  else l

/-! ## Steps -/

inductive Op where
  | accept (ch : Character) (questId : ℕ) (giver : QuestGiver)
  | confirmAccept (ch : Character) (questId : ℕ) (sameGroup : Bool)
  | swap (slot1 slot2 : ℕ)
  | remove (slot : ℕ)
  | update (p_time : ℕ)
  | reward (questId : ℕ)
  | gain (ch : Character) (entry count : ℕ)
  | lose (entry count : ℕ)
  | credit (ch : Character) (questId : ℕ) (creatures : Fin QUEST_OBJECTIVES_COUNT → ℕ)
    (players : ℕ) (explored : Bool)
  | lack (questId : ℕ)
  | complete (questId : ℕ)
  | fail (questId : ℕ)
  | endReward

def Op.duringReward : Op → Bool
  | .accept .. | .confirmAccept .. | .swap .. | .remove .. | .update .. => false
  | _ => true

/-- **A step**: a packet, an update, or a call of the player's functions; no packet is handled while
a quest is rewarded.  A quest is rewarded, completed or failed without a test, as scripts do it. -/
def step (l : QuestLog) (op : Op) : QuestLog :=
  if l.rewarding ≠ [] ∧ op.duringReward = false then l
  else match op with
    | .accept ch questId giver => l.acceptQuest tmpl ch questId giver
    | .confirmAccept ch questId sameGroup => l.HandleQuestConfirmAccept tmpl ch questId sameGroup
    | .swap slot1 slot2 => l.HandleQuestLogSwapQuest slot1 slot2
    | .remove slot => l.HandleQuestLogRemoveQuest tmpl slot
    | .update p_time => l.updateTimers tmpl p_time
    | .reward questId => l.beginReward questId
    | .gain ch entry count => l.gain tmpl ch entry count
    | .lose entry count => l.lose tmpl entry count
    | .credit ch questId creatures players explored =>
      l.credit tmpl ch questId creatures players explored
    | .lack questId => l.lack tmpl questId
    | .complete questId => l.CompleteQuest tmpl questId
    | .fail questId => l.FailQuest tmpl questId
    | .endReward => l.endReward

end QuestLog

end TeraCore.Quests
