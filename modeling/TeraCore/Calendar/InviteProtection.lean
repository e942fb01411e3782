import TeraCore.Calendar.Cleanup

/-!
# Invites that messages may change

An answer to an invite names an event and an invite, and so do the messages in which a moderator
sets the status or the rank of somebody.  What is checked is checked of the event; what is changed
is the invite, which is looked for among the invites of all events.

So the check of one event lets the invite of another be changed.

## Main results

* `handleCalendarEventRsvp_eq`, `handleCalendarEventStatus_eq`,
  `handleCalendarEventModeratorStatus_eq`: a packet is such a message, or nothing
* `getEventInvites_modifyInvite`: which invite is changed
* `protects_iff`: the invites are protected where the invite belongs to the event
-/

namespace TeraCore.Calendar

open Commons Packets CalendarMgr

inductive ChangeMessage where
  | rsvp (c : Caller) (eventId inviteId status : ℕ)
  | status (c : Caller) (eventId inviteId status : ℕ)
  | moderatorStatus (c : Caller) (eventId inviteId rank : ℕ)

namespace ChangeMessage

def eventId : ChangeMessage → ℕ
  | rsvp _ eventId _ _ => eventId
  | status _ eventId _ _ => eventId
  | moderatorStatus _ eventId _ _ => eventId

/-- The invite that is named. -/
def inviteId : ChangeMessage → ℕ
  | rsvp _ _ inviteId _ => inviteId
  | status _ _ inviteId _ => inviteId
  | moderatorStatus _ _ inviteId _ => inviteId

/-- What the invite becomes. -/
def change : ChangeMessage → CalendarInvite → CalendarInvite
  | rsvp c _ _ answer => fun i => { i with status := answer, statusTime := c.now }
  | status _ _ _ newStatus => fun i => { i with status := newStatus }
  | moderatorStatus _ _ _ rank => fun i => { i with rank := rank }

/-- Who has sent the message. -/
def caller : ChangeMessage → Caller
  | rsvp c _ _ _ => c
  | status c _ _ _ => c
  | moderatorStatus c _ _ _ => c

def isLockedOut (m : CalendarMgr) : ChangeMessage → Bool
  | rsvp _ eventId _ answer =>
    answer ≠ CALENDAR_STATUS_REMOVED && (m.GetEvent eventId).any (·.isLocked)
  | status _ _ _ _ => false
  | moderatorStatus _ _ _ _ => false

def apply (m : CalendarMgr) (msg : ChangeMessage) : CalendarMgr :=
  if msg.isLockedOut m then m.SendCalendarCommandResult msg.caller.guid .EVENT_LOCKED
  else m.changeInvite msg.caller msg.eventId msg.inviteId msg.change

/-- What an answer may make of an invite of a locked event. -/
def LockAllows (i i' : CalendarInvite) : Prop :=
  i'.status = i.status ∨ i'.status = CALENDAR_STATUS_REMOVED

def LocksHold (m m' : CalendarMgr) : ChangeMessage → Prop
  | rsvp _ _ _ _ => ∀ e ∈ m._events, e.isLocked = true →
      List.Forall₂ LockAllows (m.GetEventInvites e.eventId) (m'.GetEventInvites e.eventId)
  | status _ _ _ _ => True
  | moderatorStatus _ _ _ _ => True

/-- **A message is kept to its event**: the invites of other events stay, and an answer changes no
status of a locked event, but to removed. -/
structure Protects (m m' : CalendarMgr) (msg : ChangeMessage) : Prop where
  others : ∀ id, id ≠ msg.eventId → m'.GetEventInvites id = m.GetEventInvites id
  locks : LocksHold m m' msg

end ChangeMessage

/-! ## Packets -/

namespace CalendarMgr

variable {m : CalendarMgr} {c : Caller}

/-- What an answer to an invite is read from. -/
def readRsvp : Reader (ℕ × ℕ × ℕ) := do
  let eventId ← readUInt .uint64
  let inviteId ← readUInt .uint64
  let status ← readUInt .uint32
  return (eventId, inviteId, status)

variable (m)

/-- What a packet does from which a message is read. -/
def applyRead (message : ℕ → ℕ → ℕ → ChangeMessage) :
    Except Failure ((ℕ × ℕ × ℕ) × ByteBuffer) → CalendarMgr
  | .error _ => m
  | .ok ((eventId, inviteId, value), _) => (message eventId inviteId value).apply m

theorem handleCalendarEventRsvp_eq (c : Caller) (recvData : ByteBuffer) :
    m.HandleCalendarEventRsvp c recvData =
      m.applyRead (ChangeMessage.rsvp c) (readRsvp recvData) := by
  unfold HandleCalendarEventRsvp readRsvp
  dsimp only
  split
  · next hread =>
    rw [hread]
    rfl
  · next hread =>
    rw [hread]
    simp only [applyRead, ChangeMessage.apply, ChangeMessage.isLockedOut, Bool.and_eq_true,
      decide_eq_true_eq, ChangeMessage.caller, ChangeMessage.eventId, ChangeMessage.inviteId,
      ChangeMessage.change]

theorem handleCalendarEventStatus_eq (c : Caller) (recvData : ByteBuffer) :
    m.HandleCalendarEventStatus c recvData =
      m.applyRead (ChangeMessage.status c) (readChange recvData) := by
  rw [HandleCalendarEventStatus]
  cases readChange recvData <;> rfl

theorem handleCalendarEventModeratorStatus_eq (c : Caller) (recvData : ByteBuffer) :
    m.HandleCalendarEventModeratorStatus c recvData =
      m.applyRead (ChangeMessage.moderatorStatus c) (readChange recvData) := by
  rw [HandleCalendarEventModeratorStatus]
  cases readChange recvData <;> rfl

variable {m}

/-! ## Which invite is changed -/

variable {i : CalendarInvite} {inviteId : ℕ} {f : CalendarInvite → CalendarInvite}

theorem Filed.find?_of_getInvite (hm : m.Filed) (h : m.GetInvite inviteId = some i) :
    (m.GetEventInvites i.eventId).find? (fun i => i.inviteId = inviteId) = some i := by
  have hmem := List.mem_of_find?_eq_some h
  have hid := List.find?_some h
  refine find?_eq_some_of_unique (mem_getEventInvites hm hmem) hid fun j hj hsame => ?_
  refine List.inj_on_of_nodup_map hm.invites_nodup (mem_flatten_of_mem hj) hmem ?_
  rw [decide_eq_true_eq] at hid hsame
  exact hsame.trans hid.symm

/-- **What a change of an invite changes**: the list of the invite's event. -/
theorem getEventInvites_modifyInvite (hm : m.Filed) (h : m.GetInvite inviteId = some i) (id : ℕ) :
    (m.modifyInvite inviteId f).GetEventInvites id =
      if id = i.eventId then modifyFirst (fun i => i.inviteId = inviteId) f (m.GetEventInvites id)
      else m.GetEventInvites id := by
  have hmem := List.mem_of_find?_eq_some h
  have hid : i.inviteId = inviteId := by simpa using List.find?_some h
  unfold modifyInvite
  split
  · rename_i hnone
    rw [List.find?_eq_none] at hnone
    obtain ⟨l, hl, hi⟩ := List.mem_flatten.mp hmem
    obtain ⟨entry, hentry, rfl⟩ := List.mem_map.mp hl
    refine absurd ?_ (hnone entry hentry)
    rw [List.any_eq_true]
    exact ⟨i, hi, by simpa using hid⟩
  · rename_i entry hfound
    have hany := List.find?_some hfound
    rw [List.any_eq_true] at hany
    obtain ⟨j, hj, hsame⟩ := hany
    have hentry : m._invites.find? entry.1 = some entry.2 :=
      OrderedMap.mem_entries.mp (List.mem_of_find?_eq_some hfound)
    have hlist : m.GetEventInvites entry.1 = entry.2 := by
      rw [GetEventInvites, hentry]
      rfl
    rw [← hlist] at hj
    -- the invite with the id that the entry has is the one that was found
    obtain rfl : j = i := by
      refine List.inj_on_of_nodup_map hm.invites_nodup (mem_flatten_of_mem hj) hmem ?_
      rw [decide_eq_true_eq] at hsame
      exact hsame.trans hid.symm
    refine (m.GetEventInvites_set entry.1 id _).trans ?_
    rw [← hm.filed entry.1 j hj] at hlist ⊢
    split_ifs with heq
    · rw [heq, hlist]
    · rfl

end CalendarMgr

/-! ## When the invites are protected -/

namespace ChangeMessage

variable {m : CalendarMgr} {msg : ChangeMessage} {i : CalendarInvite}

theorem inviteId_change : (msg.change i).inviteId = i.inviteId := by cases msg <;> rfl

theorem protects_of_same {m' : CalendarMgr}
    (h : ∀ id, m'.GetEventInvites id = m.GetEventInvites id) : msg.Protects m m' := by
  refine ⟨fun id _ => h id, ?_⟩
  cases msg with
  | rsvp c eventId inviteId answer =>
    intro e _ _
    rw [h]
    exact List.forall₂_same.mpr fun i _ => .inl rfl
  | status | moderatorStatus => trivial

theorem protects_of_eventId_eq (hm : m.Filed) (hopen : msg.isLockedOut m = false)
    (h : m.GetInvite msg.inviteId = some i) (hsame : i.eventId = msg.eventId) :
    msg.Protects m (m.modifyInvite msg.inviteId msg.change) := by
  have hlist := getEventInvites_modifyInvite (f := msg.change) hm h
  refine ⟨fun id hne => by rw [hlist, if_neg (hsame ▸ hne)], ?_⟩
  cases msg with
  | status | moderatorStatus => trivial
  | rsvp c eventId inviteId answer =>
    intro e he hlocked
    rw [hlist]
    split_ifs with heq
    · -- the event is the one that is named, and its lock lets only removals pass
      have hfound := hm.getEvent_eq he
      rw [heq, hsame] at hfound
      change m.GetEvent eventId = some e at hfound
      have hremoved : answer = CALENDAR_STATUS_REMOVED := by
        by_contra hne
        simp [isLockedOut, hfound, hlocked, hne] at hopen
      exact forall₂_modifyFirst (fun i => .inl rfl) fun i => .inr hremoved
    · exact List.forall₂_same.mpr fun i _ => .inl rfl

/-- **When the invites are protected**: where the message is not refused, the invite belongs to the
event that is named, or it is already as the message makes it. -/
theorem protects_iff (hm : m.Filed) (msg : ChangeMessage) :
    msg.Protects m (msg.apply m) ↔
      (msg.isLockedOut m = false → (m.GetEvent msg.eventId).isSome = true →
        ∀ i, m.GetInvite msg.inviteId = some i → i.eventId = msg.eventId ∨ msg.change i = i) := by
  unfold apply
  cases hopen : msg.isLockedOut m with
  | true =>
    rw [if_pos rfl]
    exact iff_of_true (protects_of_same fun _ => rfl) fun h => absurd h (by decide)
  | false =>
    rw [if_neg Bool.false_ne_true, changeInvite]
    cases hevent : m.GetEvent msg.eventId with
    | none =>
      exact iff_of_true (protects_of_same fun _ => rfl) fun _ h => absurd h (by decide)
    | some e =>
      cases hinvite : m.GetInvite msg.inviteId with
      | none =>
        refine iff_of_true (protects_of_same fun _ => rfl) fun _ _ i hi => ?_
        cases hi
      | some i =>
        have hfind := hm.find?_of_getInvite hinvite
        have hlist := getEventInvites_modifyInvite (f := msg.change) hm hinvite
        constructor
        · rintro h - - j hj
          cases hj
          by_contra hnot
          obtain ⟨hne, hchange⟩ := not_or.mp hnot
          have hkept := h.others i.eventId hne
          rw [hlist, if_pos rfl] at hkept
          have hafter := find?_modifyFirst (p := fun i => decide (i.inviteId = msg.inviteId))
            (f := msg.change) (l := m.GetEventInvites i.eventId) fun j => by rw [inviteId_change]
          rw [hkept, hfind, Option.map_some] at hafter
          exact hchange (Option.some.inj hafter).symm
        · intro h
          rcases h rfl rfl i rfl with hsame | hfixed
          · exact protects_of_eventId_eq hm hopen hinvite hsame
          · refine protects_of_same fun id => ?_
            rw [hlist]
            split_ifs with heq
            · rw [heq]
              exact modifyFirst_of_fixed hfind hfixed
            · rfl

/-- A locked event with an invite, and an event that is open. -/
def lockedRows : Rows where
  events := [⟨1, 7, 0, 0, 0, 0, 0x10, 0, [], []⟩, ⟨2, 8, 0, 0, 0, 0, 0, 0, [], []⟩]
  invites := [⟨5, 1, 9, 7, 0, 0, 0, []⟩]
  events_nodup := by decide
  invites_nodup := by decide
  hasEvent := by decide

/-- **The invite of a locked event is changed** by an answer that names another event. -/
theorem not_protects :
    ¬ ∀ m : CalendarMgr, m.Filed → ∀ msg : ChangeMessage, msg.Protects m (msg.apply m) := by
  intro hall
  have hothers := (hall (LoadFromDB lockedRows) (filed_LoadFromDB _)
    (.rsvp (.ofGuid 9) 2 5 1)).others 1 (by decide)
  exact absurd hothers (by decide +kernel)

/-- The invite is taken back from its own event. -/
theorem protects_iff_lockedRows :
    (ChangeMessage.rsvp (.ofGuid 9) 1 5 CALENDAR_STATUS_REMOVED).Protects (LoadFromDB lockedRows)
      ((ChangeMessage.rsvp (.ofGuid 9) 1 5 CALENDAR_STATUS_REMOVED).apply
        (LoadFromDB lockedRows)) := by
  refine (protects_iff (filed_LoadFromDB lockedRows) _).mpr fun _ _ i hi => .inl ?_
  have hfound : (LoadFromDB lockedRows).GetInvite 5 = some ⟨5, 1, 9, 7, 0, 0, 0, []⟩ := by
    decide +kernel
  rw [← Option.some.inj (hfound.symm.trans hi)]
  rfl

end ChangeMessage

end TeraCore.Calendar
