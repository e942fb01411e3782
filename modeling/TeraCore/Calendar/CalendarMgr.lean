import TeraCore.Commons.First
import TeraCore.Commons.IdPool
import TeraCore.Commons.OrderedMap
import TeraCore.Commons.Run
import TeraCore.Packets.ByteBuffer

/-!
# The calendar

An event of the calendar has an id, and so has an invite.  The invites are kept by the ids of their
events; the events are kept on their own.

A packet is read piece by piece, and an exception stops its handler where the packet ends too soon.
What was stored until then stays.

## Main definitions

* `CalendarEvent`, `CalendarInvite`, `CalendarMgr`
* `AddEvent`, `AddInvite`, `RemoveEvent`, `RemoveInvite`, `RemoveAllPlayerEventsAndInvites`
* `HandleCalendarAddEvent` and the other handlers
* `step`: packets, and characters that are deleted
-/

namespace TeraCore.Calendar

open Commons Packets

abbrev Text : Type := List (BitVec 8)

structure CalendarInvite where
  inviteId : ℕ
  eventId : ℕ
  invitee : ℕ
  senderGUID : ℕ
  statusTime : ℤ
  status : ℕ
  rank : ℕ
  text : Text
deriving DecidableEq

structure CalendarEvent where
  eventId : ℕ
  creatorGUID : ℕ
  guildId : ℕ
  type : ℕ
  dungeonId : ℤ
  eventTime : ℤ
  flags : BitVec 32
  timezoneTime : ℤ
  title : Text
  description : Text
deriving DecidableEq

namespace CalendarEvent

/-- `CALENDAR_FLAG_GUILD_EVENT` -/
def IsGuildEvent (e : CalendarEvent) : Bool := e.flags &&& 0x400 != 0

/-- `CALENDAR_FLAG_WITHOUT_INVITES` -/
def IsGuildAnnouncement (e : CalendarEvent) : Bool := e.flags &&& 0x40 != 0

/-- `CALENDAR_FLAG_INVITES_LOCKED` -/
def isLocked (e : CalendarEvent) : Bool := e.flags &&& 0x10 != 0

end CalendarEvent

/-- `CalendarInviteStatus`; a packet may have any other number. -/
abbrev CALENDAR_STATUS_INVITED : ℕ := 0

abbrev CALENDAR_STATUS_SIGNED_UP : ℕ := 6

abbrev CALENDAR_STATUS_NOT_SIGNED_UP : ℕ := 7

abbrev CALENDAR_STATUS_TENTATIVE : ℕ := 8

abbrev CALENDAR_STATUS_REMOVED : ℕ := 9

abbrev CALENDAR_RANK_PLAYER : ℕ := 0

/-- The default response time. -/
abbrev defaultStatusTime : ℤ := 946684800

inductive CalendarError where
  | EVENT_INVALID | PLAYER_NOT_FOUND | NOT_ALLIED | IGNORING_YOU_S | NO_GUILD_INVITES
  | GUILD_PLAYER_NOT_IN_GUILD | EVENT_LOCKED | NO_INVITE | DELETE_CREATOR_FAILED
deriving DecidableEq

/-- **The calendar.**  Events are in the order in which they were made. -/
structure CalendarMgr where
  _events : List CalendarEvent
  _invites : OrderedMap ℕ (List CalendarInvite)
  /-- `_freeEventIds` and `_maxEventId` -/
  _eventIds : IdPool
  /-- `_freeInviteIds` and `_maxInviteId` -/
  _inviteIds : IdPool
  /-- The command results that were sent, with their receivers. -/
  results : List (ℕ × CalendarError)

namespace CalendarMgr

variable (m : CalendarMgr)

def SendCalendarCommandResult (guid : ℕ) (err : CalendarError) : CalendarMgr :=
  { m with results := m.results ++ [(guid, err)] }

def GetEvent (eventId : ℕ) : Option CalendarEvent := m._events.find? fun e => e.eventId = eventId

/-- The invites of an event; there is no difference between an empty list and none. -/
def GetEventInvites (eventId : ℕ) : List CalendarInvite := (m._invites.find? eventId).getD []

def GetPlayerInvites (guid : ℕ) : List CalendarInvite :=
  m._invites.values.flatten.filter fun i => i.invitee = guid

def GetInvite (inviteId : ℕ) : Option CalendarInvite :=
  m._invites.values.flatten.find? fun i => i.inviteId = inviteId

/-! ## Events and invites come and go -/

def AddEvent (e : CalendarEvent) : CalendarMgr := { m with _events := m._events ++ [e] }

/-- `AddInvite`: the invite of an announcement is not kept. -/
def AddInvite (e : CalendarEvent) (invite : CalendarInvite) : CalendarMgr :=
  if e.IsGuildAnnouncement then m
  else { m with
    _invites := m._invites.set invite.eventId (m.GetEventInvites invite.eventId ++ [invite]) }

/-- An invite is made, with an id of its own, and added. -/
def addNewInvite (e : CalendarEvent) (invite : ℕ → CalendarInvite) : CalendarMgr :=
  { m with _inviteIds := m._inviteIds.get.2 }.AddInvite e (invite m._inviteIds.get.1)

/-- `RemoveEvent`.  The mails that it sends are left out. -/
def RemoveEvent (eventId remover : ℕ) : CalendarMgr :=
  match m.GetEvent eventId with
  | none => m.SendCalendarCommandResult remover .EVENT_INVALID
  | some e =>
    { m with
      _inviteIds := ((m.GetEventInvites eventId).map (·.inviteId)).foldl IdPool.release m._inviteIds
      _invites := m._invites.erase eventId
      _eventIds := m._eventIds.release e.eventId
      _events := m._events.eraseP fun e => e.eventId = eventId }

def RemoveInvite (inviteId eventId : ℕ) : CalendarMgr :=
  match m.GetEvent eventId with
  | none => m
  | some _ =>
    match (m.GetEventInvites eventId).find? fun i => i.inviteId = inviteId with
    | none => m
    | some invite =>
      { m with
        _inviteIds := m._inviteIds.release invite.inviteId
        _invites := m._invites.set eventId
          ((m.GetEventInvites eventId).eraseP fun i => i.inviteId = inviteId) }

/-- `RemoveAllPlayerEventsAndInvites`.  The loop over the events goes on from an entry that
`RemoveEvent` has erased: then there is no result. -/
def RemoveAllPlayerEventsAndInvites (guid : ℕ) : Option CalendarMgr :=
  if m._events.any fun e => e.creatorGUID = guid then none
  else some ((m.GetPlayerInvites guid).foldl
    (fun m invite => m.RemoveInvite invite.inviteId invite.eventId) m)

/-- The invite that `GetInvite` returns is changed. -/
def modifyInvite (inviteId : ℕ) (f : CalendarInvite → CalendarInvite) : CalendarMgr :=
  match m._invites.entries.find? fun entry => entry.2.any fun i => i.inviteId = inviteId with
  | none => m
  | some entry => { m with
      _invites := m._invites.set entry.1 (modifyFirst (fun i => i.inviteId = inviteId) f entry.2) }

/-- The event that `GetEvent` returns is changed. -/
def modifyEvent (eventId : ℕ) (f : CalendarEvent → CalendarEvent) : CalendarMgr :=
  { m with _events := modifyFirst (fun e => e.eventId = eventId) f m._events }

/-! ## What is loaded -/

/-- **The rows of the calendar**: ids are the keys of their tables, and an invite has an event. -/
structure Rows where
  events : List CalendarEvent
  invites : List CalendarInvite
  events_nodup : (events.map (·.eventId)).Nodup
  invites_nodup : (invites.map (·.inviteId)).Nodup
  hasEvent : ∀ i ∈ invites, i.eventId ∈ events.map (·.eventId)

/-- The invites, by the ids of their events. -/
def groupInvites (invites : List CalendarInvite) : OrderedMap ℕ (List CalendarInvite) :=
  invites.foldl (fun m i => m.set i.eventId ((m.find? i.eventId).getD [] ++ [i])) .empty

def LoadFromDB (rows : Rows) : CalendarMgr where
  _events := rows.events
  _invites := groupInvites rows.invites
  _eventIds := .load (rows.events.map (·.eventId))
  _inviteIds := .load (rows.invites.map (·.inviteId))
  results := []

/-! ## Handlers -/

/-- Who has sent a packet, and what is asked about him and the time. -/
structure Caller where
  guid : ℕ
  guildId : ℕ
  now : ℤ
  /-- The time that a packed one stands for. -/
  packedTime : BitVec 32 → ℤ

variable (c : Caller)

abbrev Reader (α : Type) : Type := StateT ByteBuffer (Except Failure) α

def readUInt (i : IntTy) : Reader ℕ := do
  let value ← getInt i
  return value.toNat

def readInt (i : IntTy) : Reader ℤ := do
  let value ← getInt i
  return value.toInt

def readPackedTime : Reader ℤ := do
  let value ← getInt .uint32
  return c.packedTime value

def readFlags : Reader (BitVec 32) := getInt .uint32

/-- What a packet says about an event. -/
structure EventFields where
  title : Text
  description : Text
  type : ℕ
  dungeonId : ℤ
  eventPackedTime : ℤ
  timeZoneTime : ℤ
  flags : BitVec 32

def readEventFields : Reader EventFields := do
  let title ← ByteBuffer.getString
  let description ← ByteBuffer.getString
  let type ← readUInt .uint8
  let _repeatable ← readUInt .uint8
  let _maxInvites ← readUInt .uint32
  let dungeonId ← readInt .int32
  let eventPackedTime ← readPackedTime c
  let timeZoneTime ← readPackedTime c
  let flags ← readFlags
  return ⟨title, description, type, dungeonId, eventPackedTime, timeZoneTime, flags⟩

/-- An invitee, a status and a rank. -/
def readInvitee : Reader (ℕ × ℕ × ℕ) := do
  let invitee ← ByteBuffer.readPackGUID
  let status ← readUInt .uint8
  let rank ← readUInt .uint8
  return (invitee.toNat, status, rank)

/-- An event of the sender. -/
def newEvent (fields : EventFields) (eventId : ℕ) : CalendarEvent where
  eventId := eventId
  creatorGUID := c.guid
  guildId := if fields.flags &&& 0x400 != 0 || fields.flags &&& 0x40 != 0 then c.guildId else 0
  type := fields.type
  dungeonId := fields.dungeonId
  eventTime := fields.eventPackedTime
  flags := fields.flags
  timezoneTime := fields.timeZoneTime
  title := fields.title
  description := fields.description

/-- An invite that the sender makes. -/
def newInvite (eventId invitee : ℕ) (statusTime : ℤ) (status rank inviteId : ℕ) :
    CalendarInvite where
  inviteId := inviteId
  eventId := eventId
  invitee := invitee
  senderGUID := c.guid
  statusTime := statusTime
  status := status
  rank := rank
  text := []

/-- The loop of `HandleCalendarAddEvent`; false when the packet ends too soon. -/
def addInvites (e : CalendarEvent) : ℕ → CalendarMgr → ByteBuffer → CalendarMgr × Bool
  | 0, m, _ => (m, true)
  | n + 1, m, recvData =>
    match readInvitee recvData with
    | .error _ => (m, false)
    | .ok (x, recvData) =>
      addInvites e n
        (m.addNewInvite e (newInvite c e.eventId x.1 defaultStatusTime x.2.1 x.2.2)) recvData

variable (recvData : ByteBuffer)

/-- **`HandleCalendarAddEvent`.**  The invites are stored before their event. -/
def HandleCalendarAddEvent : CalendarMgr :=
  match readEventFields c recvData with
  | .error _ => m
  | .ok (fields, recvData) =>
    let e := newEvent c fields m._eventIds.get.1
    let m := { m with _eventIds := m._eventIds.get.2 }
    if e.IsGuildAnnouncement then
      (m.addNewInvite e (newInvite c e.eventId 0 defaultStatusTime CALENDAR_STATUS_NOT_SIGNED_UP
        CALENDAR_RANK_PLAYER)).AddEvent e
    else
      match readUInt .uint32 recvData with
      | .error _ => m
      | .ok (inviteCount, recvData) =>
        let r := addInvites c e inviteCount m recvData
        if r.2 then r.1.AddEvent e else r.1

def HandleCalendarUpdateEvent : CalendarMgr :=
  let read : Reader (ℕ × EventFields) := do
    let eventId ← readUInt .uint64
    let _inviteId ← readUInt .uint64
    let fields ← readEventFields c
    return (eventId, fields)
  match read recvData with
  | .error _ => m
  | .ok ((eventId, fields), _) =>
    match m.GetEvent eventId with
    | none => m.SendCalendarCommandResult c.guid .EVENT_INVALID
    | some _ => m.modifyEvent eventId fun e => { e with
        type := fields.type
        flags := fields.flags
        eventTime := fields.eventPackedTime
        timezoneTime := fields.timeZoneTime
        dungeonId := fields.dungeonId
        title := fields.title
        description := fields.description }

def HandleCalendarRemoveEvent : CalendarMgr :=
  match readUInt .uint64 recvData with
  | .error _ => m
  | .ok (eventId, _) => m.RemoveEvent eventId c.guid

def HandleCalendarCopyEvent : CalendarMgr :=
  let read : Reader (ℕ × ℤ) := do
    let eventId ← readUInt .uint64
    let _inviteId ← readUInt .uint64
    let time ← readPackedTime c
    return (eventId, time)
  match read recvData with
  | .error _ => m
  | .ok ((eventId, time), _) =>
    match m.GetEvent eventId with
    | none => m.SendCalendarCommandResult c.guid .EVENT_INVALID
    | some oldEvent =>
      let newEvent := { oldEvent with eventId := m._eventIds.get.1, eventTime := time }
      let m := { m with _eventIds := m._eventIds.get.2 }.AddEvent newEvent
      (m.GetEventInvites eventId).foldl (fun m invite =>
        m.addNewInvite newEvent fun inviteId =>
          { invite with inviteId := inviteId, eventId := newEvent.eventId }) m

/-- What is found out about somebody who is to be invited. -/
structure Invitee where
  guid : ℕ
  guildId : ℕ
  /-- He is of the sender's team, or that does not matter. -/
  allied : Bool
  /-- He ignores the sender. -/
  ignores : Bool

/-- `HandleCalendarEventInvite`, with the player of each name. -/
def HandleCalendarEventInvite (findPlayer : Text → Option Invitee) (recvData : ByteBuffer) :
    CalendarMgr :=
  let read : Reader (ℕ × Text × Bool × Bool) := do
    let eventId ← readUInt .uint64
    let _inviteId ← readUInt .uint64
    let name ← ByteBuffer.getString
    let isPreInvite ← getBool
    let isGuildEvent ← getBool
    return (eventId, name, isPreInvite, isGuildEvent)
  match read recvData with
  | .error _ => m
  | .ok ((eventId, name, isPreInvite, isGuildEvent), _) =>
    match findPlayer name with
    | none => m.SendCalendarCommandResult c.guid .PLAYER_NOT_FOUND
    | some invitee =>
      if !invitee.allied then m.SendCalendarCommandResult c.guid .NOT_ALLIED
      else if invitee.ignores then m.SendCalendarCommandResult c.guid .IGNORING_YOU_S
      else if !isPreInvite then
        match m.GetEvent eventId with
        | none => m.SendCalendarCommandResult c.guid .EVENT_INVALID
        | some e =>
          if e.IsGuildEvent && e.guildId == invitee.guildId then
            m.SendCalendarCommandResult c.guid .NO_GUILD_INVITES
          else m.addNewInvite e (newInvite c eventId invitee.guid defaultStatusTime
            CALENDAR_STATUS_INVITED CALENDAR_RANK_PLAYER)
      -- the invite before there is an event is only shown
      else if isGuildEvent && invitee.guildId == c.guildId then
        m.SendCalendarCommandResult invitee.guid .NO_GUILD_INVITES
      else m

def HandleCalendarEventSignup : CalendarMgr :=
  let read : Reader (ℕ × Bool) := do
    let eventId ← readUInt .uint64
    let tentative ← getBool
    return (eventId, tentative)
  match read recvData with
  | .error _ => m
  | .ok ((eventId, tentative), _) =>
    match m.GetEvent eventId with
    | none => m.SendCalendarCommandResult c.guid .EVENT_INVALID
    | some e =>
      if e.IsGuildEvent && e.guildId != c.guildId then
        m.SendCalendarCommandResult c.guid .GUILD_PLAYER_NOT_IN_GUILD
      else m.addNewInvite e (newInvite c eventId c.guid c.now
        (if tentative then CALENDAR_STATUS_TENTATIVE else CALENDAR_STATUS_SIGNED_UP)
        CALENDAR_RANK_PLAYER)

def changeInvite (eventId inviteId : ℕ) (f : CalendarInvite → CalendarInvite) : CalendarMgr :=
  match m.GetEvent eventId with
  | none => m.SendCalendarCommandResult c.guid .EVENT_INVALID
  | some _ =>
    match m.GetInvite inviteId with
    | none => m.SendCalendarCommandResult c.guid .NO_INVITE
    | some _ => m.modifyInvite inviteId f

def HandleCalendarEventRsvp : CalendarMgr :=
  let read : Reader (ℕ × ℕ × ℕ) := do
    let eventId ← readUInt .uint64
    let inviteId ← readUInt .uint64
    let status ← readUInt .uint32
    return (eventId, inviteId, status)
  match read recvData with
  | .error _ => m
  | .ok ((eventId, inviteId, status), _) =>
    if status ≠ CALENDAR_STATUS_REMOVED ∧ (m.GetEvent eventId).any (·.isLocked) = true then
      m.SendCalendarCommandResult c.guid .EVENT_LOCKED
    else m.changeInvite c eventId inviteId fun i => { i with status := status, statusTime := c.now }

def HandleCalendarEventRemoveInvite : CalendarMgr :=
  let read : Reader (ℕ × ℕ × ℕ) := do
    let invitee ← ByteBuffer.readPackGUID
    let inviteId ← readUInt .uint64
    let _ownerInviteId ← readUInt .uint64
    let eventId ← readUInt .uint64
    return (invitee.toNat, inviteId, eventId)
  match read recvData with
  | .error _ => m
  | .ok ((invitee, inviteId, eventId), _) =>
    match m.GetEvent eventId with
    | none => m.SendCalendarCommandResult c.guid .NO_INVITE
    | some e =>
      if e.creatorGUID = invitee then m.SendCalendarCommandResult c.guid .DELETE_CREATOR_FAILED
      else m.RemoveInvite inviteId eventId

/-- What `HandleCalendarEventStatus` and `HandleCalendarEventModeratorStatus` read. -/
def readChange : Reader (ℕ × ℕ × ℕ) := do
  let _invitee ← ByteBuffer.readPackGUID
  let eventId ← readUInt .uint64
  let inviteId ← readUInt .uint64
  let _ownerInviteId ← readUInt .uint64
  let value ← readUInt .uint8
  return (eventId, inviteId, value)

def HandleCalendarEventStatus : CalendarMgr :=
  match readChange recvData with
  | .error _ => m
  | .ok ((eventId, inviteId, status), _) =>
    m.changeInvite c eventId inviteId fun i => { i with status := status }

def HandleCalendarEventModeratorStatus : CalendarMgr :=
  match readChange recvData with
  | .error _ => m
  | .ok ((eventId, inviteId, rank), _) =>
    m.changeInvite c eventId inviteId fun i => { i with rank := rank }

end CalendarMgr

/-! ## Steps -/

open CalendarMgr in
inductive Op where
  | addEvent (c : Caller) (recvData : ByteBuffer)
  | updateEvent (c : Caller) (recvData : ByteBuffer)
  | removeEvent (c : Caller) (recvData : ByteBuffer)
  | copyEvent (c : Caller) (recvData : ByteBuffer)
  | eventInvite (c : Caller) (findPlayer : Text → Option Invitee) (recvData : ByteBuffer)
  | eventSignup (c : Caller) (recvData : ByteBuffer)
  | eventRsvp (c : Caller) (recvData : ByteBuffer)
  | eventRemoveInvite (c : Caller) (recvData : ByteBuffer)
  | eventStatus (c : Caller) (recvData : ByteBuffer)
  | eventModeratorStatus (c : Caller) (recvData : ByteBuffer)
  | deleteCharacter (guid : ℕ)

/-- **A packet, or a character that is deleted.** -/
def step (m : CalendarMgr) : Op → Option CalendarMgr
  | .addEvent c recvData => some (m.HandleCalendarAddEvent c recvData)
  | .updateEvent c recvData => some (m.HandleCalendarUpdateEvent c recvData)
  | .removeEvent c recvData => some (m.HandleCalendarRemoveEvent c recvData)
  | .copyEvent c recvData => some (m.HandleCalendarCopyEvent c recvData)
  | .eventInvite c findPlayer recvData => some (m.HandleCalendarEventInvite c findPlayer recvData)
  | .eventSignup c recvData => some (m.HandleCalendarEventSignup c recvData)
  | .eventRsvp c recvData => some (m.HandleCalendarEventRsvp c recvData)
  | .eventRemoveInvite c recvData => some (m.HandleCalendarEventRemoveInvite c recvData)
  | .eventStatus c recvData => some (m.HandleCalendarEventStatus c recvData)
  | .eventModeratorStatus c recvData => some (m.HandleCalendarEventModeratorStatus c recvData)
  | .deleteCharacter guid => m.RemoveAllPlayerEventsAndInvites guid

end TeraCore.Calendar
