import TeraCore.Commons.OrderedMap
import TeraCore.Commons.Run
import TeraCore.Entities.ObjectGuid

/-!
# Vehicles

A vehicle has up to eight seats, and each keeps the guid of its passenger.  Beside the seats it
counts those that a unit can enter and that nobody sits in: while there are any, the vehicle shows a
flag to players.

When a unit asks for a seat whose passenger is no longer found, the seat is emptied at once, and not
counted as free.  So the unit that takes it is counted twice.

## Main results

* `Vehicle.seatsRight_run`: so it is in a run that asks for no such seat
-/

namespace TeraCore

open Commons OrderedMap

/-- `VehicleSeatEntry` -/
structure SeatInfo where
  m_flags : BitVec 32
  m_flagsB : BitVec 32

/-- `VEHICLE_SEAT_FLAG_CAN_ENTER_OR_EXIT` -/
def SeatInfo.CanEnterOrExit (i : SeatInfo) : Bool := i.m_flags &&& 0x02000000 != 0

/-- `VEHICLE_SEAT_FLAG_UNCONTROLLED`, or one of the `VEHICLE_SEAT_FLAG_B_USABLE_FORCED`. -/
def SeatInfo.IsUsableByOverride (i : SeatInfo) : Bool :=
  i.m_flags &&& 0x00002000 != 0 || i.m_flagsB &&& 0x02000142 != 0

structure VehicleSeat where
  seatInfo : SeatInfo
  /-- The guid of the passenger, or 0. -/
  passenger : Guid

structure Vehicle where
  Seats : OrderedMap ℕ VehicleSeat
  _usableSeatNum : ℕ
  /-- `UNIT_NPC_FLAG_PLAYER_VEHICLE` of a player, and `UNIT_NPC_FLAG_SPELLCLICK` of others. -/
  npcFlag : Bool

/-- The assertions of `AddPassenger` and `RemovePassenger`. -/
inductive SeatAssertion where
  | seatFree
  | usableSeatNum
  | seatFound
  deriving DecidableEq

namespace Vehicle

variable (v : Vehicle)

variable (m_seatID : ℕ → ℕ) (lookupEntry : ℕ → Option SeatInfo)

/-- One turn of the constructor's loop. -/
def addSeat (v : Vehicle) (i : ℕ) : Vehicle :=
  if m_seatID i = 0 then v
  else
    match lookupEntry (m_seatID i) with
    | none => v
    | some veSeat =>
      { v with
        Seats := v.Seats.set i ⟨veSeat, 0⟩
        _usableSeatNum := v._usableSeatNum + if veSeat.CanEnterOrExit then 1 else 0 }

/-- **The constructor**; there are `MAX_VEHICLE_SEATS` seats. -/
def new (npcFlag : Bool) : Vehicle :=
  (List.range 8).foldl (addSeat m_seatID lookupEntry) ⟨.empty, 0, npcFlag⟩

/-- A seat is emptied, and counted. -/
def leaveSeat (i : ℕ) (seat : VehicleSeat) : Vehicle :=
  let v := { v with Seats := v.Seats.set i { seat with passenger := 0 } }
  if seat.seatInfo.CanEnterOrExit then
    { v with
      npcFlag := v.npcFlag || v._usableSeatNum == 0
      _usableSeatNum := v._usableSeatNum + 1 }
  else v

/-- **`RemovePassenger`**, of a unit that is on this vehicle or not. -/
def RemovePassenger (onThis : Bool) (guid : Guid) : Except SeatAssertion Vehicle :=
  if onThis then
    -- `GetSeatIteratorForPassenger`
    match v.Seats.entries.find? fun e => e.2.passenger = guid with
    | none => .error .seatFound
    | some (i, seat) => .ok (v.leaveSeat i seat)
  else .ok v

/-- The unit takes a seat. -/
def takeSeat (guid : Guid) (i : ℕ) (seat : VehicleSeat) : Except SeatAssertion Vehicle :=
  let v := { v with Seats := v.Seats.set i { seat with passenger := guid } }
  if seat.seatInfo.CanEnterOrExit then
    if v._usableSeatNum = 0 then .error .usableSeatNum
    else
      .ok { v with
        npcFlag := v.npcFlag && v._usableSeatNum - 1 != 0
        _usableSeatNum := v._usableSeatNum - 1 }
  else .ok v

/-- The unit takes a seat of a given number.  `exits` is what comes of the passenger that sits
there: nothing if it is no longer a unit, else whether `ExitVehicle` makes it leave the vehicle. -/
def takeSeatOf (guid : Guid) (i : ℕ) (seat : VehicleSeat) :
    Option Bool → Except SeatAssertion Vehicle
  | none =>
    let seat := { seat with passenger := 0 }
    takeSeat { v with Seats := v.Seats.set i seat } guid i seat
  | some onThis => do
    let v ← v.RemovePassenger onThis seat.passenger
    match v.Seats.find? i with
    | none => .error .seatFree
    | some seat => if seat.passenger = 0 then v.takeSeat guid i seat else .error .seatFree

/-- **`AddPassenger`**, of a unit that is on this vehicle or not. -/
def AddPassenger (onThis : Bool) (guid : Guid) (seatId : ℤ) (exits : Option Bool) :
    Except SeatAssertion Vehicle :=
  if onThis then
    if seatId < 0 then
      match v.Seats.entries.find? fun e => e.2.passenger = 0 ∧
          (e.2.seatInfo.CanEnterOrExit || e.2.seatInfo.IsUsableByOverride) = true with
      | none => .ok v
      | some (i, seat) => v.takeSeat guid i seat
    else
      match v.Seats.find? seatId.toNat with
      | none => .ok v
      | some seat =>
        if seat.passenger = 0 then v.takeSeat guid seatId.toNat seat
        else v.takeSeatOf guid seatId.toNat seat exits
  else .ok v

/-! ## Runs -/

inductive Op where
  | addPassenger (onThis : Bool) (guid : Guid) (seatId : ℤ) (exits : Option Bool)
  | removePassenger (onThis : Bool) (guid : Guid)

def step (v : Vehicle) : Op → Except SeatAssertion Vehicle
  | .addPassenger onThis guid seatId exits => v.AddPassenger onThis guid seatId exits
  | .removePassenger onThis guid => v.RemovePassenger onThis guid

def Proper (v : Vehicle) : Op → Prop
  | .addPassenger _ guid _ _ =>
      guid ≠ 0 ∧ ∀ i seat, v.Seats.find? i = some seat → seat.passenger ≠ guid
  | .removePassenger _ guid => guid ≠ 0

def AsksNoStale (v : Vehicle) : Op → Prop
  | .addPassenger onThis _ seatId exits => onThis = true → 0 ≤ seatId → exits = none →
    ∀ seat, v.Seats.find? seatId.toNat = some seat → seat.passenger ≠ 0 →
      seat.seatInfo.CanEnterOrExit = false
  | .removePassenger _ _ => True

/-- A seat that units can enter and that nobody sits in. -/
def isFree (seat : VehicleSeat) : Bool := seat.seatInfo.CanEnterOrExit && seat.passenger == 0

/-- No passenger has two of the seats. -/
def Alone (seats : OrderedMap ℕ VehicleSeat) : Prop :=
  ∀ i j seat seat', seats.find? i = some seat → seats.find? j = some seat' →
    seat.passenger = seat'.passenger → seat.passenger ≠ 0 → i = j

structure SeatsRight (v : Vehicle) : Prop where
  counted : v._usableSeatNum = v.Seats.values.countP isFree
  alone : Alone v.Seats

/-- **The flag follows the count.** -/
def FlagFollows (v v' : Vehicle) : Prop :=
  if v._usableSeatNum ≠ 0 ∧ v'._usableSeatNum = 0 then v'.npcFlag = false
  else if v._usableSeatNum = 0 ∧ v'._usableSeatNum ≠ 0 then v'.npcFlag = true
  else v'.npcFlag = v.npcFlag

/-- What a run keeps: if units can enter a seat and none is free, the flag is gone. -/
structure Kept (v : Vehicle) : Prop extends SeatsRight v where
  closed : v._usableSeatNum = 0 → ∀ i seat, v.Seats.find? i = some seat →
    seat.seatInfo.CanEnterOrExit = true → v.npcFlag = false

variable {v} {v' : Vehicle} {i : ℕ} {seat : VehicleSeat} {guid : Guid} {op : Op}

theorem alone_set {seats : OrderedMap ℕ VehicleSeat} (h : Alone seats)
    (hnew : seat.passenger ≠ 0 → ∀ j s, seats.find? j = some s → s.passenger ≠ seat.passenger) :
    Alone (seats.set i seat) := by
  intro j k s s' hs hs' heq hne
  rw [find?_set] at hs hs'
  split_ifs at hs hs' with hj hk
  · exact hj.trans hk.symm
  · cases hs
    exact absurd heq.symm (hnew hne k s' hs')
  · cases hs'
    exact absurd heq (hnew (heq ▸ hne) j s hs)
  · exact h j k s s' hs hs' heq hne

theorem flagFollows_of_eq (hcount : v'._usableSeatNum = v._usableSeatNum)
    (hflag : v'.npcFlag = v.npcFlag) : FlagFollows v v' := by
  rw [FlagFollows, hcount, if_neg fun h => h.1 h.2, if_neg fun h => h.2 h.1]
  exact hflag

theorem Kept.set_of_not_usable (h : Kept v) (hfind : v.Seats.find? i = some seat)
    (husable : seat.seatInfo.CanEnterOrExit = false) {passenger : Guid}
    (halone : Alone (v.Seats.set i { seat with passenger := passenger })) :
    Kept { v with Seats := v.Seats.set i { seat with passenger := passenger } } where
  counted := by
    have hcount := countP_values_set hfind { seat with passenger := passenger } isFree
    simp only [isFree, husable, Bool.false_and, Bool.false_eq_true, if_false,
      Nat.add_zero] at hcount
    exact h.counted.trans hcount.symm
  alone := halone
  closed := by
    intro hzero j s hs husable'
    rw [find?_set] at hs
    split_ifs at hs
    · cases hs
      rw [husable] at husable'
      cases husable'
    · exact h.closed hzero j s hs husable'

theorem Kept.leaveSeat (h : Kept v) (hfind : v.Seats.find? i = some seat)
    (hpassenger : seat.passenger ≠ 0) :
    Kept (v.leaveSeat i seat) ∧ FlagFollows v (v.leaveSeat i seat) := by
  have halone : Alone (v.Seats.set i { seat with passenger := 0 }) :=
    alone_set h.alone fun hne => absurd rfl hne
  unfold Vehicle.leaveSeat
  cases husable : seat.seatInfo.CanEnterOrExit with
  | true =>
    have hcount := countP_values_set hfind { seat with passenger := 0 } isFree
    simp only [isFree, husable, beq_iff_eq, hpassenger, beq_self_eq_true, Bool.true_and, if_true,
      if_false, Nat.add_zero] at hcount
    rw [if_pos rfl]
    refine ⟨⟨⟨(congrArg (· + 1) h.counted).trans hcount.symm, halone⟩, ?_⟩, ?_⟩
    · exact fun hzero => absurd hzero (Nat.succ_ne_zero _)
    · by_cases hzero : v._usableSeatNum = 0 <;> simp [FlagFollows, hzero]
  | false => exact ⟨h.set_of_not_usable hfind husable halone, flagFollows_of_eq rfl rfl⟩

/-- **A unit takes a free seat.** -/
theorem Kept.takeSeat (h : Kept v) (hfind : v.Seats.find? i = some seat)
    (hfree : seat.passenger = 0) (hguid : guid ≠ 0)
    (hnew : ∀ j s, v.Seats.find? j = some s → s.passenger ≠ guid) :
    ∃ v', v.takeSeat guid i seat = .ok v' ∧ Kept v' ∧ FlagFollows v v' ∧
      v'._usableSeatNum + (if seat.seatInfo.CanEnterOrExit then 1 else 0) = v._usableSeatNum := by
  have halone : Alone (v.Seats.set i { seat with passenger := guid }) :=
    alone_set h.alone fun _ => hnew
  unfold Vehicle.takeSeat
  cases husable : seat.seatInfo.CanEnterOrExit with
  | true =>
    have hcount := countP_values_set hfind { seat with passenger := guid } isFree
    simp only [isFree, husable, hfree, beq_iff_eq, hguid, beq_self_eq_true, Bool.true_and, if_true,
      if_false, Nat.add_zero] at hcount
    rw [← h.counted] at hcount
    have hpos : v._usableSeatNum ≠ 0 := fun hzero => by omega
    rw [if_pos rfl, if_neg hpos]
    refine ⟨_, rfl, ⟨⟨by dsimp only; omega, halone⟩, ?_⟩, ?_,
      Nat.sub_add_cancel (Nat.pos_of_ne_zero hpos)⟩
    · intro hzero j s hs husable'
      dsimp only at hzero ⊢
      rw [hzero]
      exact Bool.and_false _
    · by_cases hzero : v._usableSeatNum - 1 = 0 <;> simp [FlagFollows, hpos, hzero]
  | false =>
      exact ⟨_, rfl, h.set_of_not_usable hfind husable halone, flagFollows_of_eq rfl rfl, rfl⟩

theorem find?_of_entry {q : ℕ × VehicleSeat → Bool} {e : ℕ × VehicleSeat}
    (h : v.Seats.entries.find? q = some e) : v.Seats.find? e.1 = some e.2 ∧ q e = true :=
  ⟨mem_entries.mp (List.mem_of_find?_eq_some h), List.find?_some h⟩

/-- What may come of a step: another assertion fails, or the seats and the flag are right. -/
def Goes (v : Vehicle) : Except SeatAssertion Vehicle → Prop
  | .error e => e ≠ .usableSeatNum
  | .ok v' => Kept v' ∧ FlagFollows v v'

theorem Kept.removePassenger (h : Kept v) (onThis : Bool) (hguid : guid ≠ 0) :
    Goes v (v.RemovePassenger onThis guid) := by
  unfold RemovePassenger
  split_ifs
  · split
    · exact SeatAssertion.noConfusion
    · rename_i i seat hentry
      obtain ⟨hfind, hpassenger⟩ := find?_of_entry hentry
      rw [decide_eq_true_eq] at hpassenger
      exact h.leaveSeat hfind (hpassenger ▸ hguid)
  · exact ⟨h, flagFollows_of_eq rfl rfl⟩

theorem removePassenger_eq (h : Alone v.Seats) (hfind : v.Seats.find? i = some seat)
    (hpassenger : seat.passenger ≠ 0) :
    v.RemovePassenger true seat.passenger = .ok (v.leaveSeat i seat) := by
  obtain ⟨e, he⟩ : ∃ e,
      v.Seats.entries.find? (fun e => e.2.passenger = seat.passenger) = some e := by
    rw [← Option.isSome_iff_exists, List.find?_isSome]
    exact ⟨(i, seat), mem_entries.mpr hfind, decide_eq_true rfl⟩
  obtain ⟨hfind', hsame⟩ := find?_of_entry he
  rw [decide_eq_true_eq] at hsame
  obtain rfl : i = e.1 := h i e.1 seat e.2 hfind hfind' hsame.symm hpassenger
  obtain rfl : seat = e.2 := Option.some.inj (hfind.symm.trans hfind')
  rw [RemovePassenger, if_pos rfl, he]

/-- The count goes up for a passenger that leaves, and down for the one that takes its seat. -/
theorem FlagFollows.back {u : Vehicle} (h : FlagFollows v u) (h' : FlagFollows u v')
    (hle : v._usableSeatNum ≤ u._usableSeatNum) (hcount : v'._usableSeatNum = v._usableSeatNum)
    (hclosed : v._usableSeatNum = 0 → u._usableSeatNum ≠ 0 → v.npcFlag = false) :
    FlagFollows v v' := by
  unfold FlagFollows at h h'
  refine flagFollows_of_eq hcount ?_
  rw [hcount] at h'
  by_cases hzero : v._usableSeatNum = 0
  · by_cases hu : u._usableSeatNum = 0
    · simp only [hzero, hu, ne_eq, not_true_eq_false, and_false, if_false] at h h'
      exact h'.trans h
    · rw [if_pos ⟨hu, hzero⟩] at h'
      rw [h', hclosed hzero hu]
  · have hu : u._usableSeatNum ≠ 0 := by omega
    simp only [hzero, hu, and_false, false_and, if_false] at h h'
    exact h'.trans h

variable (v i seat)

theorem usableSeatNum_leaveSeat :
    (v.leaveSeat i seat)._usableSeatNum =
      v._usableSeatNum + if seat.seatInfo.CanEnterOrExit then 1 else 0 := by
  unfold Vehicle.leaveSeat
  split <;> rfl

theorem seats_leaveSeat :
    (v.leaveSeat i seat).Seats = v.Seats.set i { seat with passenger := 0 } := by
  unfold Vehicle.leaveSeat
  split <;> rfl

variable {v i seat}

theorem takeSeatOf_of_ok {onThis : Bool} {u : Vehicle} {s : VehicleSeat}
    (h : v.RemovePassenger onThis seat.passenger = .ok u) (hfind : u.Seats.find? i = some s) :
    v.takeSeatOf guid i seat (some onThis) =
      if s.passenger = 0 then u.takeSeat guid i s else .error .seatFree := by
  rw [takeSeatOf, h]
  change (match u.Seats.find? i with
    | none => Except.error SeatAssertion.seatFree
    | some s => if s.passenger = 0 then u.takeSeat guid i s else _) = _
  rw [hfind]

/-- **A unit takes a seat of a given number.**  A seat that is emptied in place of its passenger is
not one that units can enter. -/
theorem Kept.takeSeatOf (h : Kept v) (hfind : v.Seats.find? i = some seat)
    (hpassenger : seat.passenger ≠ 0) (hguid : guid ≠ 0)
    (hnew : ∀ j s, v.Seats.find? j = some s → s.passenger ≠ guid) {exits : Option Bool}
    (hstale : exits = none → seat.seatInfo.CanEnterOrExit = false) :
    Goes v (v.takeSeatOf guid i seat exits) := by
  have hself : (v.Seats.set i { seat with passenger := 0 }).find? i =
      some { seat with passenger := 0 } := find?_set_self _ _ _
  have hnew' : ∀ j s, (v.Seats.set i { seat with passenger := 0 }).find? j = some s →
      s.passenger ≠ guid := by
    intro j s hs
    rw [find?_set] at hs
    split_ifs at hs
    · rw [← Option.some.inj hs]
      exact hguid.symm
    · exact hnew j s hs
  cases exits with
  | none =>
    have hcleared := h.set_of_not_usable hfind (hstale rfl)
      (alone_set h.alone fun hne => absurd rfl hne)
    obtain ⟨w, hok, hw, hflag, -⟩ := hcleared.takeSeat hself rfl hguid hnew'
    rw [show v.takeSeatOf guid i seat none = .ok w from hok]
    exact ⟨hw, hflag⟩
  | some onThis =>
    cases onThis with
    | false =>
      rw [takeSeatOf_of_ok (rfl : v.RemovePassenger false seat.passenger = .ok v) hfind,
        if_neg hpassenger]
      exact SeatAssertion.noConfusion
    | true =>
      obtain ⟨hleft, hflag⟩ := h.leaveSeat hfind hpassenger
      have hseats := seats_leaveSeat v i seat
      have hcount := usableSeatNum_leaveSeat v i seat
      rw [← hseats] at hself hnew'
      obtain ⟨w, hok, hw, hflag', hcount'⟩ := hleft.takeSeat hself rfl hguid hnew'
      rw [takeSeatOf_of_ok (removePassenger_eq h.alone hfind hpassenger) hself, if_pos rfl, hok]
      dsimp only at hcount'
      refine ⟨hw, hflag.back hflag' (hcount ▸ Nat.le_add_right _ _) (by omega) ?_⟩
      intro hzero hone
      refine h.closed hzero i seat hfind ?_
      by_contra husable
      rw [hcount, hzero, if_neg husable] at hone
      exact hone rfl

theorem Kept.step (h : Kept v) (hproper : Proper v op) (hstale : AsksNoStale v op) :
    Goes v (v.step op) := by
  cases op with
  | removePassenger onThis guid => exact h.removePassenger onThis hproper
  | addPassenger onThis guid seatId exits =>
    obtain ⟨hguid, hnew⟩ := hproper
    have hstay : Goes v (.ok v) := ⟨h, flagFollows_of_eq rfl rfl⟩
    have htake : ∀ {i seat}, v.Seats.find? i = some seat → seat.passenger = 0 →
        Goes v (v.takeSeat guid i seat) := by
      intro i seat hfind hfree
      obtain ⟨w, hok, hw, hflag, -⟩ := h.takeSeat hfind hfree hguid hnew
      rw [hok]
      exact ⟨hw, hflag⟩
    change Goes v (v.AddPassenger onThis guid seatId exits)
    unfold AddPassenger
    split_ifs with hthis hany
    · split
      · exact hstay
      · rename_i i seat hentry
        obtain ⟨hfind, hfree⟩ := find?_of_entry hentry
        exact htake hfind (of_decide_eq_true hfree).1
    · cases hfind : v.Seats.find? seatId.toNat with
      | none => exact hstay
      | some seat =>
        dsimp only
        split
        · exact htake hfind ‹_›
        · rename_i hpassenger
          exact h.takeSeatOf hfind hpassenger hguid hnew fun hnone =>
            hstale hthis (not_lt.mp hany) hnone seat hfind hpassenger
    · exact hstay

/-! ## From the constructor on -/

variable (npcFlag : Bool)

/-- The constructor counts the seats that units can enter, and nobody sits in any. -/
theorem new_spec : (new m_seatID lookupEntry npcFlag)._usableSeatNum =
      (new m_seatID lookupEntry npcFlag).Seats.values.countP isFree ∧
    ∀ i seat, (new m_seatID lookupEntry npcFlag).Seats.find? i = some seat →
      seat.passenger = 0 := by
  let Built (n : ℕ) (v : Vehicle) : Prop := v._usableSeatNum = v.Seats.values.countP isFree ∧
    ∀ i seat, v.Seats.find? i = some seat → i < n ∧ seat.passenger = 0
  have hstep : ∀ n v, Built n v → Built (n + 1) (v.addSeat m_seatID lookupEntry n) := by
    rintro n v ⟨hcount, hseats⟩
    have hstay : Built (n + 1) v :=
      ⟨hcount,
        fun i seat h => ⟨(hseats i seat h).1.trans (Nat.lt_succ_self n), (hseats i seat h).2⟩⟩
    unfold addSeat
    split
    · exact hstay
    · split
      · exact hstay
      · rename_i veSeat _
        have hnone : v.Seats.find? n = none := by
          rw [Option.eq_none_iff_forall_ne_some]
          exact fun seat h => lt_irrefl n (hseats n seat h).1
        refine ⟨?_, fun i seat h => ?_⟩
        · dsimp only
          rw [countP_values_set_of_none hnone, hcount, isFree, beq_self_eq_true,
            Bool.and_true]
        · dsimp only at h
          rw [find?_set] at h
          split_ifs at h with hi
          · rw [hi, ← Option.some.inj h]
            exact ⟨Nat.lt_succ_self n, rfl⟩
          · exact hstay.2 i seat h
  have hbuilt : Built 8 (new m_seatID lookupEntry npcFlag) :=
    foldl_range_invariant Built hstep ⟨rfl, fun i seat h => by cases h⟩ 8
  exact ⟨hbuilt.1, fun i seat h => (hbuilt.2 i seat h).2⟩

theorem kept_new : Kept (new m_seatID lookupEntry npcFlag) := by
  obtain ⟨hcount, hseats⟩ := new_spec m_seatID lookupEntry npcFlag
  refine ⟨⟨hcount, fun i j seat seat' h _ _ hne => absurd (hseats i seat h) hne⟩, ?_⟩
  -- a seat that units can enter is free, and counted
  intro hzero i seat hfind husable
  have hfree : isFree seat = true := by
    rw [isFree, husable, hseats i seat hfind]
    rfl
  rw [hcount, List.countP_eq_zero] at hzero
  exact absurd hfree (hzero seat (mem_values.mpr ⟨i, hfind⟩))

/-- A step of a vehicle, unless an assertion has failed. -/
def stepAll (s : Except SeatAssertion Vehicle) (op : Op) : Except SeatAssertion Vehicle :=
  s.bind (·.step op)

/-- **What holds of a vehicle that a run has led to**, and of every further step. -/
structure SeatsSound (s : Except SeatAssertion Vehicle) : Prop where
  assertion : s ≠ .error .usableSeatNum
  seats : ∀ v, s = .ok v → SeatsRight v
  flag : ∀ v op v', s = .ok v → Proper v op → AsksNoStale v op → v.step op = .ok v' →
    FlagFollows v v'

/-- **The seats are right** in every run that asks for no seat that units can enter and whose
passenger is no longer a unit. -/
theorem seatsRight_run {ops : List Op} (h : Admissible stepAll
      (fun s op => ∀ v, s = .ok v → Proper v op ∧ AsksNoStale v op)
      (.ok (new m_seatID lookupEntry npcFlag)) ops) :
    SeatsSound (run stepAll (.ok (new m_seatID lookupEntry npcFlag)) ops) := by
  have hkept := run_invariant (fun s => s ≠ .error .usableSeatNum ∧ ∀ v, s = .ok v → Kept v)
    (fun s op hs hop => ?_) ⟨fun h => (by cases h), fun v hv => ?_⟩ h
  · obtain ⟨hassertion, hseats⟩ := hkept
    refine ⟨hassertion, fun v hv => (hseats v hv).toSeatsRight, ?_⟩
    intro v op v' hv hproper hstale hok
    have hgoes := (hseats v hv).step hproper hstale
    rw [hok] at hgoes
    exact hgoes.2
  · cases s with
    | error e => exact ⟨hs.1, fun v hv => by cases hv⟩
    | ok v =>
      have hgoes := (hs.2 v rfl).step (hop v rfl).1 (hop v rfl).2
      change v.step op ≠ _ ∧ ∀ v', v.step op = .ok v' → Kept v'
      cases hstep : v.step op with
      | error e =>
        rw [hstep] at hgoes
        exact ⟨fun he => hgoes (Except.error.inj he), fun v hv => by cases hv⟩
      | ok v' =>
        rw [hstep] at hgoes
        exact ⟨fun he => (by cases he), fun v hv => Except.ok.inj hv ▸ hgoes.1⟩
  · rw [← Except.ok.inj hv]
    exact kept_new m_seatID lookupEntry npcFlag

/-- A vehicle with one seat, which units can enter. -/
def oneSeat : Vehicle := new (fun i => if i = 0 then 1 else 0) (fun _ => some ⟨0x02000000, 0⟩) true

theorem proper_addPassenger {v : Vehicle} {guid : Guid} {seatId : ℤ} {exits : Option Bool}
    (hguid : guid ≠ 0) (hseats : ∀ e ∈ v.Seats.entries, e.2.passenger ≠ guid)
    (hstale : 0 ≤ seatId → exits = none →
      ∀ seat ∈ v.Seats.find? seatId.toNat, seat.passenger = 0) :
    Proper v (.addPassenger true guid seatId exits) ∧
      AsksNoStale v (.addPassenger true guid seatId exits) :=
  ⟨⟨hguid, fun _ _ h => hseats _ (mem_entries.mpr h)⟩,
    fun _ hpos hexits seat h hne => absurd (hstale hpos hexits seat h) hne⟩

theorem admissible_cons {v v' : Vehicle} {op : Op} {ops : List Op} (hstep : v.step op = .ok v')
    (hop : Proper v op ∧ AsksNoStale v op)
    (hrest : Admissible stepAll (fun s op => ∀ v, s = .ok v → Proper v op ∧ AsksNoStale v op)
      (.ok v') ops) :
    Admissible stepAll (fun s op => ∀ v, s = .ok v → Proper v op ∧ AsksNoStale v op) (.ok v)
      (op :: ops) := by
  refine ⟨fun w hw => Except.ok.inj hw ▸ hop, ?_⟩
  change Admissible _ _ (v.step op) ops
  rwa [hstep]

/-- A vehicle with three seats, which units can enter. -/
def threeSeats : Vehicle :=
  new (fun i => if i < 3 then i + 1 else 0) (fun _ => some ⟨0x02000000, 0⟩) true

/-- Two units take seats, a third one throws the first off its seat, and the second leaves. -/
theorem seatsRight_run_threeSeats : SeatsSound (run stepAll (.ok threeSeats)
    [.addPassenger true 5 0 none, .addPassenger true 6 (-1) none,
      .addPassenger true 7 0 (some true), .removePassenger true 6]) :=
  seatsRight_run _ _ _ <|
    admissible_cons rfl (proper_addPassenger (by decide) (by decide) (by decide)) <|
    admissible_cons rfl (proper_addPassenger (by decide) (by decide) (by decide)) <|
    admissible_cons rfl (proper_addPassenger (by decide) (by decide) (by decide)) <|
    admissible_cons rfl ⟨Nat.succ_ne_zero 5, trivial⟩ trivial

/-- The passenger is no longer found, and another unit asks for the seat: there is nothing to take
from the count. -/
theorem usableSeatNum_fails : run stepAll (.ok oneSeat)
    [.addPassenger true 5 0 none, .addPassenger true 6 0 none] = .error .usableSeatNum := rfl

end Vehicle

end TeraCore
