import Mathlib.Data.BitVec
import TeraCore.Commons.RingLog
import TeraCore.Commons.Run

/-!
# The guild's event log

A guild keeps its last `maxRecords` events in memory and in `guild_eventlog`.  In memory the oldest
event makes room for a new one; in the table a new event replaces the row with its number, which
goes round from `0` to `maxRecords - 1`.  The number is remembered as the last one given out.  It
is unknown while there is no event, and after a start of the server it is that of the first row
loaded, the newest.

The two stay the same list because both are a function of the history, the `ring` of its events.

## Main results

* `EventLogs.eventLogs_keepsLast`: after every run memory and rows are the last events of the guild
* `EventLogs.eventLogs_keepsLast_of_query`: also when the server's own query orders the rows
-/

namespace TeraCore

open Commons

/-- The number of a log without events. -/
def guildEventLogGuidUndefined : BitVec 32 := 0xFFFFFFFF

inductive GuildEventLogTypes where
  | invitePlayer
  | joinGuild
  | promotePlayer
  | demotePlayer
  | uninvitePlayer
  | leaveGuild
  deriving DecidableEq

/-- What `Guild::_LogEvent` is told, and the time it reads.  The table keeps the time in an
`int unsigned`, which the server's clock fits. -/
structure GuildEvent where
  eventType : GuildEventLogTypes
  playerGuid1 : BitVec 32
  playerGuid2 : BitVec 32
  newRank : BitVec 8
  timestamp : BitVec 32
  deriving DecidableEq

/-- An entry of the log.  A row of `guild_eventlog` has the same columns. -/
structure EventLogEntry where
  guildId : BitVec 32
  guid : BitVec 32
  event : GuildEvent
  deriving DecidableEq

/-- `EventLogEntry::SaveToDB`: the row with this number is replaced. -/
def EventLogEntry.saveToDB (entry : EventLogEntry) (rows : List EventLogEntry) :
    List EventLogEntry :=
  rows.filter (fun row => ¬(row.guildId = entry.guildId ∧ row.guid = entry.guid)) ++ [entry]

structure LogHolder where
  log : List EventLogEntry
  guildId : BitVec 32
  maxRecords : BitVec 32
  nextGUID : BitVec 32
  deriving DecidableEq

namespace LogHolder

/-- The constructor. -/
def create (guildId maxRecords : BitVec 32) : LogHolder :=
  ⟨[], guildId, maxRecords, guildEventLogGuidUndefined⟩

/-- Checks if a new entry can be added when loading from the database. -/
def canInsert (h : LogHolder) : Bool :=
  h.log.length < h.maxRecords.toNat

/-- Adds an event loaded from the database. -/
def loadEvent (h : LogHolder) (entry : EventLogEntry) : LogHolder :=
  let h := if h.nextGUID = guildEventLogGuidUndefined then { h with nextGUID := entry.guid } else h
  { h with log := entry :: h.log }

/-- Adds a new event.  If the maximum number is reached, the oldest one is removed. -/
def addEvent (h : LogHolder) (entry : EventLogEntry) : LogHolder :=
  let h := if h.log.length ≥ h.maxRecords.toNat then { h with log := h.log.tail } else h
  { h with log := h.log ++ [entry] }

def getNextGUID (h : LogHolder) : LogHolder :=
  -- Next guid was not initialized: there are no records for this holder yet.
  if h.nextGUID = guildEventLogGuidUndefined then
    { h with nextGUID := 0 }
  else
    { h with nextGUID := (h.nextGUID + 1) % h.maxRecords }

def loadEventLogFromDB (h : LogHolder) (row : EventLogEntry) : LogHolder :=
  if h.canInsert then h.loadEvent row else h

end LogHolder

/-- The event logs of all guilds, and the table. -/
structure EventLogs where
  holders : BitVec 32 → LogHolder
  rows : List EventLogEntry

namespace EventLogs

/-- `Guild::_LogEvent`. -/
def logEvent (s : EventLogs) (guildId : BitVec 32) (event : GuildEvent) : EventLogs :=
  let h := (s.holders guildId).getNextGUID
  let entry : EventLogEntry := ⟨guildId, h.nextGUID, event⟩
  { holders := Function.update s.holders guildId (h.addEvent entry)
    rows := entry.saveToDB s.rows }

/-- `GuildMgr::LoadGuilds`, the event logs: rows beyond the limit are deleted, and `result`, what
the query returned, is handed to the guilds row by row. -/
def loadEventLogs (maxRecords : BitVec 32) (s : EventLogs) (result : List EventLogEntry) :
    EventLogs where
  holders := result.foldl
    (fun holders row =>
      Function.update holders row.guildId ((holders row.guildId).loadEventLogFromDB row))
    (fun guildId => LogHolder.create guildId maxRecords)
  rows := s.rows.filter fun row => ¬row.guid > maxRecords

end EventLogs

/-- What happens to the logs. -/
inductive LogStep where
  | logEvent (guildId : BitVec 32) (event : GuildEvent)
  | start (result : List EventLogEntry)
  deriving DecidableEq

namespace EventLogs

def step (maxRecords : BitVec 32) (s : EventLogs) : LogStep → EventLogs
  | .logEvent guildId event => s.logEvent guildId event
  | .start result => s.loadEventLogs maxRecords result

/-- The guild's rows, in the order they were written. -/
def rowsOf (s : EventLogs) (g : BitVec 32) : List EventLogEntry :=
  s.rows.filter fun row => row.guildId = g

/-- A guild without events. -/
structure Fresh (maxRecords g : BitVec 32) (s : EventLogs) : Prop where
  holder : s.holders g = LogHolder.create g maxRecords
  rows : s.rowsOf g = []

def NewestFirst (g : BitVec 32) (s : EventLogs) : LogStep → Prop
  | .logEvent _ _ => True
  | .start result => result.filter (fun row => row.guildId = g) = (s.rowsOf g).reverse

instance (g : BitVec 32) (s : EventLogs) : ∀ op, Decidable (NewestFirst g s op)
  | .logEvent _ _ => instDecidableTrue
  | .start result =>
    inferInstanceAs (Decidable (result.filter (fun row => row.guildId = g) = (s.rowsOf g).reverse))

end EventLogs

def LogStep.event? (g : BitVec 32) : LogStep → Option GuildEvent
  | .logEvent guildId event => if guildId = g then some event else none
  | .start _ => none

/-- The guild's events of a history. -/
def eventsOf (g : BitVec 32) (ops : List LogStep) : List GuildEvent :=
  ops.filterMap (LogStep.event? g)

/-- **The purpose of the log**: in memory and in the table are the last `maxRecords` events. -/
structure EventLogs.KeepsLast (maxRecords g : BitVec 32) (events : List GuildEvent)
    (s : EventLogs) : Prop where
  log : (s.holders g).log.map EventLogEntry.event =
    events.drop (events.length - min events.length maxRecords.toNat)
  guids_nodup : ((s.holders g).log.map EventLogEntry.guid).Nodup
  guids_lt : ∀ entry ∈ (s.holders g).log, entry.guid < maxRecords
  rows : s.rowsOf g = (s.holders g).log

/-! ## The log as the ring of its events -/

variable (g : BitVec 32) (p : ℕ × GuildEvent)

/-- The entry of a numbered event. -/
def toEntry : EventLogEntry :=
  ⟨g, BitVec.ofNat 32 p.1, p.2⟩

@[simp] theorem toEntry_guildId : (toEntry g p).guildId = g := rfl

@[simp] theorem toEntry_event : (toEntry g p).event = p.2 :=
  rfl

/-- The log after the events `es`. -/
def logOf (maxRecords g : BitVec 32) (es : List GuildEvent) : List EventLogEntry :=
  (ring maxRecords.toNat es).map (toEntry g)

/-- The number last given out after the events `es`. -/
def lastGUID (maxRecords : BitVec 32) (es : List GuildEvent) : BitVec 32 :=
  if es = [] then guildEventLogGuidUndefined
  else BitVec.ofNat 32 ((es.length - 1) % maxRecords.toNat)

/-- Memory and rows are those of the events `es`. -/
structure EventLogs.Holds (maxRecords g : BitVec 32) (es : List GuildEvent) (s : EventLogs) :
    Prop where
  holder : s.holders g = ⟨logOf maxRecords g es, g, maxRecords, lastGUID maxRecords es⟩
  rows : s.rowsOf g = logOf maxRecords g es

variable {g} {maxRecords : BitVec 32} {es : List GuildEvent}

@[simp] theorem logOf_nil : logOf maxRecords g [] = [] := by
  rw [logOf, ring_nil, List.map_nil]

@[simp] theorem lastGUID_nil : lastGUID maxRecords [] = guildEventLogGuidUndefined := rfl

theorem lastGUID_snoc (e : GuildEvent) :
    lastGUID maxRecords (es ++ [e]) = BitVec.ofNat 32 (es.length % maxRecords.toNat) := by
  simp [lastGUID]

@[simp] theorem length_logOf : (logOf maxRecords g es).length = (ring maxRecords.toNat es).length :=
  List.length_map _

section

variable (hmax : 0 < maxRecords.toNat)
include hmax

theorem toNat_ofNat_mod (n : ℕ) :
    (BitVec.ofNat 32 (n % maxRecords.toNat)).toNat = n % maxRecords.toNat := by
  have := Nat.mod_lt n hmax
  rw [BitVec.toNat_ofNat, Nat.mod_eq_of_lt]
  omega

theorem ofNat_mod_ne_undefined (n : ℕ) :
    BitVec.ofNat 32 (n % maxRecords.toNat) ≠ guildEventLogGuidUndefined := by
  intro h
  have htoNat := congrArg BitVec.toNat h
  rw [toNat_ofNat_mod hmax] at htoNat
  have hlt := Nat.mod_lt n hmax
  have hundef : guildEventLogGuidUndefined.toNat = 4294967295 := rfl
  omega

theorem ofNat_mod_succ (n : ℕ) :
    (BitVec.ofNat 32 (n % maxRecords.toNat) + 1) % maxRecords =
      BitVec.ofNat 32 ((n + 1) % maxRecords.toNat) := by
  have hlt := Nat.mod_lt n hmax
  have hone : (1 : BitVec 32).toNat = 1 := rfl
  have hsmall : (n % maxRecords.toNat + 1) % 2 ^ 32 = n % maxRecords.toNat + 1 :=
    Nat.mod_eq_of_lt (by omega)
  apply BitVec.eq_of_toNat_eq
  rw [BitVec.toNat_umod, BitVec.toNat_add, toNat_ofNat_mod hmax, toNat_ofNat_mod hmax, hone,
    hsmall, Nat.mod_add_mod]

/-- **The next number** is that of the event's place in the history. -/
theorem nextGUID_getNextGUID (log : List EventLogEntry) :
    (LogHolder.mk log g maxRecords (lastGUID maxRecords es)).getNextGUID =
      ⟨log, g, maxRecords, BitVec.ofNat 32 (es.length % maxRecords.toNat)⟩ := by
  rcases es.eq_nil_or_concat' with rfl | ⟨es, e, rfl⟩
  · rw [LogHolder.getNextGUID, lastGUID_nil, if_pos rfl, List.length_nil, Nat.zero_mod]
    rfl
  · rw [LogHolder.getNextGUID, lastGUID_snoc, if_neg (ofNat_mod_ne_undefined hmax _)]
    rw [List.length_append, List.length_singleton, ← ofNat_mod_succ hmax]

theorem toNat_guid_toEntry {p : ℕ × GuildEvent} (hp : p ∈ ring maxRecords.toNat es) :
    (toEntry g p).guid.toNat = p.1 := by
  have htoNat := toNat_ofNat_mod hmax p.1
  rwa [Nat.mod_eq_of_lt (lt_of_mem_ring hmax hp)] at htoNat

end

/-- The new entry of a log that is the ring of `es`. -/
def nextEntry (maxRecords g : BitVec 32) (es : List GuildEvent) (e : GuildEvent) : EventLogEntry :=
  toEntry g (es.length % maxRecords.toNat, e)

theorem logOf_snoc (hmax : 0 < maxRecords.toNat) (e : GuildEvent) :
    logOf maxRecords g (es ++ [e]) =
      (if (logOf maxRecords g es).length < maxRecords.toNat then logOf maxRecords g es
        else (logOf maxRecords g es).tail) ++ [nextEntry maxRecords g es e] := by
  rw [logOf, ring_snoc hmax, length_logOf]
  split <;> simp [logOf, nextEntry]

theorem filter_logOf (hmax : 0 < maxRecords.toNat) (e : GuildEvent) :
    (logOf maxRecords g es).filter
        (fun row => ¬(row.guildId = g ∧ row.guid = (nextEntry maxRecords g es e).guid)) ++
        [nextEntry maxRecords g es e] =
      logOf maxRecords g (es ++ [e]) := by
  have hfilter : (ring maxRecords.toNat es).filter
      (fun p => ¬((toEntry g p).guildId = g ∧
        (toEntry g p).guid = (nextEntry maxRecords g es e).guid)) =
      (ring maxRecords.toNat es).filter (fun p => p.1 ≠ es.length % maxRecords.toNat) := by
    refine List.filter_congr fun p hp => ?_
    simp only [toEntry_guildId, true_and, decide_eq_decide]
    rw [← BitVec.toNat_inj, toNat_guid_toEntry hmax hp, nextEntry]
    exact not_congr (iff_of_eq (congrArg _ (toNat_ofNat_mod hmax es.length)))
  rw [logOf_snoc hmax, length_logOf, logOf, List.filter_map]
  refine congrArg (· ++ _) ?_
  change ((ring maxRecords.toNat es).filter fun p => ¬((toEntry g p).guildId = g ∧
    (toEntry g p).guid = (nextEntry maxRecords g es e).guid)).map (toEntry g) = _
  rw [hfilter, ring_filter_ne hmax]
  split <;> simp

/-! ## One event -/

namespace EventLogs

variable {s : EventLogs} {guildId : BitVec 32} {e : GuildEvent}

theorem Holds.logEvent (hmax : 0 < maxRecords.toNat) (h : s.Holds maxRecords g es)
    (e : GuildEvent) : (s.logEvent g e).Holds maxRecords g (es ++ [e]) := by
  have hnext : (s.holders g).getNextGUID =
      ⟨logOf maxRecords g es, g, maxRecords, (nextEntry maxRecords g es e).guid⟩ := by
    rw [h.holder, nextGUID_getNextGUID hmax]
    rfl
  constructor
  · simp only [EventLogs.logEvent, Function.update_self, hnext, LogHolder.addEvent]
    rw [lastGUID_snoc, logOf_snoc hmax]
    split
    · rename_i hle
      rw [if_neg (by omega)]
      rfl
    · rename_i hlt
      rw [if_pos (by omega)]
      rfl
  · simp only [EventLogs.logEvent, hnext, EventLogEntry.saveToDB]
    rw [← filter_logOf hmax, ← h.rows]
    simp only [rowsOf, List.filter_append, List.filter_filter]
    congr 1
    · exact List.filter_congr fun row _ => Bool.and_comm _ _
    · simp [nextEntry, toEntry]

theorem Holds.logEvent_ne (h : s.Holds maxRecords g es) (hg : guildId ≠ g) (e : GuildEvent) :
    (s.logEvent guildId e).Holds maxRecords g es := by
  constructor
  · simpa only [EventLogs.logEvent, Function.update_of_ne hg.symm] using h.holder
  · rw [← h.rows]
    simp only [EventLogs.logEvent, EventLogEntry.saveToDB, rowsOf, List.filter_append,
      List.filter_filter]
    rw [List.filter_cons_of_neg (by simpa using hg), List.filter_nil, List.append_nil]
    refine List.filter_congr fun row _ => ?_
    by_cases hrow : row.guildId = g
    · simp [hrow, Ne.symm hg]
    · simp [hrow]

/-! ## A start of the server -/

theorem foldl_load (result : List EventLogEntry) (holders : BitVec 32 → LogHolder) :
    result.foldl (fun holders row =>
        Function.update holders row.guildId ((holders row.guildId).loadEventLogFromDB row))
        holders g =
      (result.filter fun row => row.guildId = g).foldl LogHolder.loadEventLogFromDB
        (holders g) := by
  induction result generalizing holders with
  | nil => rfl
  | cons row result ih =>
    rw [List.foldl_cons, ih]
    by_cases hrow : row.guildId = g
    · rw [List.filter_cons_of_pos (by simpa using hrow), List.foldl_cons, hrow,
        Function.update_self]
    · rw [List.filter_cons_of_neg (by simpa using hrow), Function.update_of_ne (Ne.symm hrow)]

/-- Rows that fit are put before what was loaded; the first one sets the number. -/
theorem foldl_loadEventLogFromDB (rows : List EventLogEntry) (h : LogHolder)
    (hfit : rows.length + h.log.length ≤ h.maxRecords.toNat)
    (hguid : ∀ row ∈ rows, row.guid ≠ guildEventLogGuidUndefined) :
    rows.foldl LogHolder.loadEventLogFromDB h =
      { h with
        log := rows.reverse ++ h.log
        nextGUID :=
          if h.nextGUID = guildEventLogGuidUndefined then (rows.head?.map (·.guid)).getD h.nextGUID
          else h.nextGUID } := by
  induction rows generalizing h with
  | nil => simp
  | cons row rows ih =>
    rw [List.length_cons] at hfit
    have hrow := hguid row List.mem_cons_self
    have hcan : h.canInsert = true := decide_eq_true (by omega)
    rw [List.foldl_cons, LogHolder.loadEventLogFromDB, if_pos hcan, ih]
    · by_cases hundef : h.nextGUID = guildEventLogGuidUndefined
      · simp [LogHolder.loadEvent, hundef, hrow]
      · simp [LogHolder.loadEvent, hundef]
    · by_cases hundef : h.nextGUID = guildEventLogGuidUndefined <;>
        simp [LogHolder.loadEvent, hundef] <;> omega
    · exact fun row' hmem => hguid row' (List.mem_cons_of_mem _ hmem)

theorem guid_lt_of_mem_logOf (hmax : 0 < maxRecords.toNat) {row : EventLogEntry}
    (h : row ∈ logOf maxRecords g es) : row.guid < maxRecords := by
  obtain ⟨p, hp, rfl⟩ := List.mem_map.mp h
  rw [BitVec.lt_def, toNat_guid_toEntry hmax hp]
  exact lt_of_mem_ring hmax hp

theorem head_guid_reverse_logOf (hmax : 0 < maxRecords.toNat) :
    ((logOf maxRecords g es).reverse.head?.map (·.guid)).getD guildEventLogGuidUndefined =
      lastGUID maxRecords es := by
  rcases es.eq_nil_or_concat' with rfl | ⟨es, e, rfl⟩
  · simp
  · rw [List.head?_reverse, logOf, List.getLast?_map, getLast?_ring hmax, lastGUID_snoc]
    rfl

theorem Holds.rowsOf_loadEventLogs (hmax : 0 < maxRecords.toNat) (h : s.Holds maxRecords g es)
    (result : List EventLogEntry) :
    (s.loadEventLogs maxRecords result).rowsOf g = s.rowsOf g := by
  simp only [EventLogs.loadEventLogs, rowsOf, List.filter_filter]
  refine List.filter_congr fun row hmem => ?_
  by_cases hrow : row.guildId = g
  · have hmem' : row ∈ s.rowsOf g := List.mem_filter.mpr ⟨hmem, decide_eq_true hrow⟩
    have hguid := guid_lt_of_mem_logOf hmax (h.rows ▸ hmem')
    rw [BitVec.lt_def] at hguid
    simp only [hrow, decide_true, Bool.true_and, gt_iff_lt, decide_eq_true_eq, BitVec.lt_def]
    omega
  · simp [hrow]

theorem Holds.loadEventLogs (hmax : 0 < maxRecords.toNat) (h : s.Holds maxRecords g es)
    {result : List EventLogEntry}
    (hresult : result.filter (fun row => row.guildId = g) = (s.rowsOf g).reverse) :
    (s.loadEventLogs maxRecords result).Holds maxRecords g es := by
  refine ⟨?_, (h.rowsOf_loadEventLogs hmax result).trans h.rows⟩
  change result.foldl _ (fun guildId => LogHolder.create guildId maxRecords) g = _
  rw [foldl_load, hresult, h.rows, foldl_loadEventLogFromDB]
  · simp only [LogHolder.create, List.reverse_reverse, List.append_nil, if_true]
    rw [head_guid_reverse_logOf hmax]
  · have := length_ring (k := maxRecords.toNat) es
    simp only [LogHolder.create, List.length_reverse, length_logOf, List.length_nil]
    omega
  · intro row hmem hundef
    have hrow := guid_lt_of_mem_logOf hmax (List.mem_reverse.mp hmem)
    rw [hundef, BitVec.lt_def] at hrow
    have hundef' : guildEventLogGuidUndefined.toNat = 4294967295 := rfl
    omega

/-! ## Runs -/

theorem Fresh.holds (h : s.Fresh maxRecords g) : s.Holds maxRecords g [] where
  holder := by rw [h.holder, logOf_nil, lastGUID_nil]; rfl
  rows := by rw [h.rows, logOf_nil]

section

variable (hmax : 0 < maxRecords.toNat) (h : s.Holds maxRecords g es)
include hmax h

theorem Holds.step {op : LogStep} (hop : NewestFirst g s op) :
    (s.step maxRecords op).Holds maxRecords g (es ++ (op.event? g).toList) := by
  cases op with
  | logEvent guildId e =>
    by_cases hg : guildId = g
    · subst hg
      simpa [LogStep.event?, EventLogs.step] using h.logEvent hmax e
    · simpa [LogStep.event?, EventLogs.step, hg] using h.logEvent_ne hg e
  | start result => simpa [LogStep.event?, EventLogs.step] using h.loadEventLogs hmax hop

theorem Holds.run (ops : List LogStep)
    (hops : Admissible (EventLogs.step maxRecords) (NewestFirst g) s ops) :
    (Commons.run (EventLogs.step maxRecords) s ops).Holds maxRecords g (es ++ eventsOf g ops) := by
  induction ops generalizing s es with
  | nil => simpa [eventsOf] using h
  | cons op ops ih =>
    have hrun := ih (h.step hmax hops.1) hops.2
    have hevents : eventsOf g (op :: ops) = (op.event? g).toList ++ eventsOf g ops := by
      unfold eventsOf
      cases hop : op.event? g <;> simp [hop]
    rwa [List.append_assoc, ← hevents] at hrun

/-- **The ring's view of the log** is its purpose. -/
theorem Holds.keepsLast : s.KeepsLast maxRecords g es where
  log := by
    rw [h.holder, logOf, List.map_map]
    refine (map_snd_ring es).trans (congrArg es.drop ?_)
    omega
  guids_nodup := by
    have hnumbers : (logOf maxRecords g es).map (fun entry => entry.guid.toNat) =
        (ring maxRecords.toNat es).map Prod.fst := by
      rw [logOf, List.map_map]
      exact List.map_congr_left fun p hp => toNat_guid_toEntry hmax hp
    rw [h.holder]
    refine List.Nodup.of_map BitVec.toNat ?_
    rw [List.map_map]
    exact hnumbers ▸ ring_nodup es
  guids_lt := by
    rw [h.holder]
    exact fun entry => guid_lt_of_mem_logOf hmax
  rows := by rw [h.rows, h.holder]

end

/-- **The guild's log is a ring**: after every history of events and starts of the server that
read the guild's rows newest first, memory and rows are its last events, under different numbers
below the limit. -/
theorem eventLogs_keepsLast (maxRecords g : BitVec 32) (hmax : 1 ≤ maxRecords.toNat) {s : EventLogs}
    (hs : s.Fresh maxRecords g) (ops : List LogStep)
    (hops : Admissible (EventLogs.step maxRecords) (NewestFirst g) s ops) :
    (Commons.run (EventLogs.step maxRecords) s ops).KeepsLast maxRecords g (eventsOf g ops) :=
  (hs.holds.run hmax ops hops).keepsLast hmax

/-- Five events of one guild and one of another in a log for three, with two starts. -/
def sampleSteps : List LogStep :=
  let event (time : BitVec 32) : GuildEvent := ⟨.joinGuild, time, 0, 0, time⟩
  [.logEvent 7 (event 1), .logEvent 7 (event 2), .logEvent 9 (event 3), .start
    [⟨9, 0, event 3⟩, ⟨7, 1, event 2⟩, ⟨7, 0, event 1⟩],
    .logEvent 7 (event 4), .logEvent 7 (event 5), .start
    [⟨7, 0, event 5⟩, ⟨7, 2, event 4⟩, ⟨9, 0, event 3⟩, ⟨7, 1, event 2⟩], .logEvent 7 (event 6)]

/-- A server without events. -/
def emptyLogs : EventLogs := ⟨fun guildId => LogHolder.create guildId 3, []⟩

theorem eventLogs_keepsLast_sampleSteps :
    (Commons.run (EventLogs.step 3) emptyLogs sampleSteps).KeepsLast 3 7
      (eventsOf 7 sampleSteps) :=
  eventLogs_keepsLast 3 7 (by decide) ⟨rfl, rfl⟩ sampleSteps (by decide)

/-! ## The server's query -/

/-- `ORDER BY TimeStamp DESC, LogGuid DESC`. -/
def readsBefore (row row' : EventLogEntry) : Bool :=
  decide (row'.event.timestamp < row.event.timestamp ∨
    row'.event.timestamp = row.event.timestamp ∧ row'.guid ≤ row.guid)

def selectEventLog (rows : List EventLogEntry) : List EventLogEntry :=
  rows.mergeSort readsBefore

/-- A start is handed what the query finds, after rows beyond the limit were deleted. -/
def ReadsQuery (maxRecords : BitVec 32) (s : EventLogs) : LogStep → Prop
  | .logEvent _ _ => True
  | .start result => result = selectEventLog (s.loadEventLogs maxRecords []).rows

theorem Holds.newestFirst (hmax : 0 < maxRecords.toNat) (h : s.Holds maxRecords g es)
    (hclock : es.Pairwise fun e e' => e.timestamp < e'.timestamp) {result : List EventLogEntry}
    (hresult : ReadsQuery maxRecords s (.start result)) : NewestFirst g s (.start result) := by
  obtain rfl : result = _ := hresult
  have hsorted : (selectEventLog (s.loadEventLogs maxRecords []).rows).Pairwise
      fun row row' => readsBefore row row' = true := by
    refine List.pairwise_mergeSort (fun a b c hab hbc => ?_) (fun a b => ?_) _
    all_goals
      simp only [readsBefore, BitVec.lt_def, BitVec.le_def, ← BitVec.toNat_inj, Bool.or_eq_true,
        decide_eq_true_eq] at *
      omega
  have hperm : (List.filter (fun row => row.guildId = g)
      (selectEventLog (s.loadEventLogs maxRecords []).rows)).Perm (s.rowsOf g) :=
    h.rowsOf_loadEventLogs hmax [] ▸ (List.mergeSort_perm _ _).filter _
  have hrows : (s.rowsOf g).Pairwise fun row row' =>
      row.event.timestamp < row'.event.timestamp := by
    have hlast := hclock.sublist (List.drop_sublist (es.length - maxRecords.toNat) es)
    rw [← List.rtake, ← map_snd_ring, List.pairwise_map] at hlast
    rw [h.rows]
    exact List.pairwise_map.mpr hlast
  have hne := (hrows.imp fun hlt => BitVec.ne_of_lt hlt).perm hperm.symm Ne.symm
  refine List.Perm.eq_of_pairwise (fun _ _ _ _ hlt hgt => absurd hlt (BitVec.lt_asymm hgt))
    ((hsorted.filter _).imp₂ (fun row row' hreads hne => ?_) hne)
    (List.pairwise_reverse.mpr hrows) (hperm.trans (List.reverse_perm _).symm)
  exact (of_decide_eq_true hreads).resolve_right fun heq => hne heq.1.symm

/-- **The server's own query keeps the log** of events of different seconds. -/
theorem eventLogs_keepsLast_of_query (maxRecords g : BitVec 32) (hmax : 1 ≤ maxRecords.toNat)
    (hs : s.Fresh maxRecords g) (ops : List LogStep)
    (hops : Admissible (EventLogs.step maxRecords) (ReadsQuery maxRecords) s ops)
    (hclock : (eventsOf g ops).Pairwise fun e e' => e.timestamp < e'.timestamp) :
    (Commons.run (EventLogs.step maxRecords) s ops).KeepsLast maxRecords g (eventsOf g ops) := by
  have hnewest : Admissible (EventLogs.step maxRecords) (NewestFirst g) s ops := by
    induction ops using List.reverseRecOn with
    | nil => trivial
    | append_singleton ops op ih =>
      rw [admissible_append] at hops ⊢
      rw [eventsOf, List.filterMap_append] at hclock
      have hbefore := (List.pairwise_append.mp hclock).1
      have hpast := ih hops.1 hbefore
      refine ⟨hpast, ?_, trivial⟩
      cases op with
      | logEvent => trivial
      | start => exact (hs.holds.run hmax ops hpast).newestFirst hmax hbefore hops.2.1
  exact (hs.holds.run hmax ops hnewest).keepsLast hmax

theorem eventLogs_keepsLast_of_query_sampleSteps :
    (Commons.run (EventLogs.step 3) emptyLogs (sampleSteps.take 4)).KeepsLast 3 7
      (eventsOf 7 (sampleSteps.take 4)) := by
  refine eventLogs_keepsLast_of_query 3 7 (by decide) ⟨rfl, rfl⟩ _
    ⟨trivial, trivial, trivial, ?_, trivial⟩ (by decide)
  change _ = List.mergeSort [_, _, _] readsBefore
  simp [List.mergeSort, readsBefore]
  decide

end EventLogs

end TeraCore
