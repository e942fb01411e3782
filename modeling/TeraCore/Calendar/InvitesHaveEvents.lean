import TeraCore.Calendar.CalendarMgr

/-!
# Every invite has its event

Ids are in use from where they are given out to where their objects are destroyed.  While an event
is made, its id is in use and it has invites, but it is not among the events yet; a packet that ends
between two invites leaves it so.

## Main results

* `calendarSound_run`: it holds after every run of harmless steps
-/

namespace TeraCore.Calendar

open Commons Packets OrderedMap

namespace CalendarMgr

def eventIds (m : CalendarMgr) : List ℕ := m._events.map (·.eventId)

def inviteIds (m : CalendarMgr) : List ℕ := m._invites.values.flatten.map (·.inviteId)

/-- **The ids in use**, with those of events that are being made. -/
structure Kept (m : CalendarMgr) (making : List ℕ) : Prop where
  events : m._eventIds.Sound (making ++ m.eventIds)
  invites : m._inviteIds.Sound m.inviteIds
  hasEvent : ∀ id, m.GetEventInvites id ≠ [] → id ∈ making ++ m.eventIds

variable {m : CalendarMgr} {making : List ℕ}

/-! ## The first of a list -/

theorem perm_eraseP {α : Type} {p : α → Bool} {l : List α} {x : α} (h : l.find? p = some x) :
    l.Perm (x :: l.eraseP p) := by
  induction l with
  | nil => cases h
  | cons y l ih =>
    rw [List.find?_cons] at h
    rw [List.eraseP_cons]
    cases hp : p y with
    | true =>
      rw [hp] at h
      rw [Option.some.inj h]
      exact .refl _
    | false =>
      rw [hp] at h
      exact ((ih h).cons y).trans (.swap x y _)

/-! ## The invites of one event, and the others -/

theorem inviteIds_perm (m : CalendarMgr) (eventId : ℕ) :
    m.inviteIds.Perm ((m.GetEventInvites eventId).map (·.inviteId) ++
      (m._invites.erase eventId).values.flatten.map (·.inviteId)) := by
  unfold inviteIds GetEventInvites
  rw [← List.map_append]
  refine List.Perm.map _ ?_
  cases h : m._invites.find? eventId with
  | none =>
    rw [erase_of_find?_eq_none h]
    exact .refl _
  | some l =>
    have hperm := (values_perm_erase h).flatten
    rwa [List.flatten_cons] at hperm

theorem inviteIds_set_perm (m : CalendarMgr) (eventId : ℕ) (l : List CalendarInvite) :
    (inviteIds { m with _invites := m._invites.set eventId l }).Perm
      (l.map (·.inviteId) ++ (m._invites.erase eventId).values.flatten.map (·.inviteId)) := by
  rw [← List.map_append]
  refine List.Perm.map _ ?_
  have hperm := (values_set_perm m._invites eventId l).flatten
  rwa [List.flatten_cons] at hperm

theorem GetEventInvites_set (m : CalendarMgr) (eventId id : ℕ) (l : List CalendarInvite) :
    GetEventInvites { m with _invites := m._invites.set eventId l } id =
      if id = eventId then l else m.GetEventInvites id := by
  unfold GetEventInvites
  rw [find?_set]
  split <;> rfl

/-! ## Invites -/

/-- **An invite is made** for an event that there is, or that is being made. -/
theorem Kept.addNewInvite (h : Kept m making) {e : CalendarEvent} {invite : ℕ → CalendarInvite}
    (hid : ∀ id, (invite id).inviteId = id)
    (hevent : ∀ id, (invite id).eventId ∈ making ++ m.eventIds) :
    Kept (m.addNewInvite e invite) making := by
  have hinvites := h.invites.get
  unfold CalendarMgr.addNewInvite CalendarMgr.AddInvite
  generalize m._inviteIds.get = r at hinvites
  split
  · -- the invite of an announcement is lost
    exact ⟨h.events, hinvites.lose, h.hasEvent⟩
  · refine ⟨h.events, ?_, fun id hne => ?_⟩
    · refine hinvites.perm ?_
      refine .trans ?_ (inviteIds_set_perm { m with _inviteIds := r.2 } _ _).symm
      rw [List.map_append, List.append_assoc]
      refine .trans ?_ (List.perm_append_comm_assoc _ _ _)
      change (r.1 :: m.inviteIds).Perm ((invite r.1).inviteId :: _)
      rw [hid]
      exact (m.inviteIds_perm (invite r.1).eventId).cons _
    · have hlist := GetEventInvites_set { m with _inviteIds := r.2 } (invite r.1).eventId id
        (GetEventInvites { m with _inviteIds := r.2 } (invite r.1).eventId ++ [invite r.1])
      by_cases hsame : id = (invite r.1).eventId
      · rw [hsame]
        exact hevent r.1
      · rw [if_neg hsame] at hlist
        exact h.hasEvent id fun hnil => hne (hlist.trans hnil)

theorem Kept.removeInvite (h : Kept m making) (inviteId eventId : ℕ) :
    Kept (m.RemoveInvite inviteId eventId) making := by
  unfold CalendarMgr.RemoveInvite
  split
  · exact h
  · split
    · exact h
    · rename_i invite hfind
      have herase := (perm_eraseP hfind).map (·.inviteId)
      refine ⟨h.events, ?_, fun id hne => ?_⟩
      · have hused := h.invites.perm ((m.inviteIds_perm eventId).trans (herase.append_right _))
        exact hused.release.perm (m.inviteIds_set_perm eventId _).symm
      · by_cases hsame : id = eventId
        · subst hsame
          refine h.hasEvent id fun hnil => ?_
          rw [hnil] at hfind
          cases hfind
        · refine h.hasEvent id fun hnil => hne ?_
          rw [← hnil]
          exact (m.GetEventInvites_set eventId id _).trans (if_neg hsame)

theorem Kept.modifyInvite (h : Kept m making) (inviteId : ℕ) {f : CalendarInvite → CalendarInvite}
    (hf : ∀ i, (f i).inviteId = i.inviteId) : Kept (m.modifyInvite inviteId f) making := by
  unfold CalendarMgr.modifyInvite
  split
  · exact h
  · rename_i entry hfind
    have hentry : m._invites.find? entry.1 = some entry.2 :=
      mem_entries.mp (List.mem_of_find?_eq_some hfind)
    have hinvites : m.GetEventInvites entry.1 = entry.2 := by
      rw [GetEventInvites, hentry]
      rfl
    have hsame : (modifyFirst (fun i => i.inviteId = inviteId) f entry.2).map (·.inviteId) =
        entry.2.map (·.inviteId) := map_modifyFirst hf
    refine ⟨h.events, ?_, fun id hne => h.hasEvent id fun hnil => hne ?_⟩
    · refine h.invites.perm (.trans ?_ (m.inviteIds_set_perm entry.1 _).symm)
      rw [hsame, ← hinvites]
      exact m.inviteIds_perm entry.1
    · refine (m.GetEventInvites_set entry.1 id _).trans ?_
      split
      · rename_i hid
        rw [hid, hinvites] at hnil
        rw [hnil]
        rfl
      · exact hnil

/-! ## Events -/

theorem Kept.addEvent {e : CalendarEvent} (h : Kept m [e.eventId]) : Kept (m.AddEvent e) [] := by
  have hperm : ([e.eventId] ++ m.eventIds).Perm ([] ++ (m.AddEvent e).eventIds) := by
    change ([e.eventId] ++ m.eventIds).Perm ((m._events ++ [e]).map (·.eventId))
    rw [List.map_append]
    exact List.perm_append_comm
  exact ⟨h.events.perm hperm, h.invites, fun id hne => hperm.mem_iff.mp (h.hasEvent id hne)⟩

theorem Kept.make (h : Kept m []) :
    Kept { m with _eventIds := m._eventIds.get.2 } [m._eventIds.get.1] :=
  ⟨h.events.get, h.invites, fun id hne => List.mem_cons_of_mem _ (h.hasEvent id hne)⟩

theorem Kept.lose (h : Kept m []) : Kept { m with _eventIds := m._eventIds.get.2 } [] :=
  ⟨h.make.events.lose, h.invites, h.hasEvent⟩

theorem Kept.removeEvent (h : Kept m []) (eventId remover : ℕ) :
    Kept (m.RemoveEvent eventId remover) [] := by
  unfold CalendarMgr.RemoveEvent
  split
  · exact ⟨h.events, h.invites, h.hasEvent⟩
  · rename_i e hfind
    have hid : e.eventId = eventId := by simpa using List.find?_some hfind
    have hperm := (perm_eraseP hfind).map (·.eventId)
    refine ⟨?_, ?_, fun id hne => ?_⟩
    · exact (h.events.perm hperm).release
    · exact (h.invites.perm (m.inviteIds_perm eventId)).releaseAll
    · have hne' : id ≠ eventId := by
        rintro rfl
        refine hne ?_
        rw [GetEventInvites, find?_erase_self]
        rfl
      have hkept : ((m._invites.erase eventId).find? id).getD [] = m.GetEventInvites id := by
        rw [find?_erase_of_ne _ hne']
        rfl
      have hmem := h.hasEvent id fun hnil => hne (hkept.trans hnil)
      exact (List.mem_cons.mp (hperm.mem_iff.mp hmem)).resolve_left fun heq => hne' (heq.trans hid)

theorem Kept.modifyEvent (h : Kept m making) (eventId : ℕ) {f : CalendarEvent → CalendarEvent}
    (hf : ∀ e, (f e).eventId = e.eventId) : Kept (m.modifyEvent eventId f) making := by
  have hids : (m.modifyEvent eventId f).eventIds = m.eventIds := map_modifyFirst hf
  refine ⟨?_, h.invites, ?_⟩
  · rw [hids]
    exact h.events
  · rw [hids]
    exact h.hasEvent

theorem Kept.result (h : Kept m making) (guid : ℕ) (err : CalendarError) :
    Kept (m.SendCalendarCommandResult guid err) making :=
  ⟨h.events, h.invites, h.hasEvent⟩

/-! ## Packets -/

/-- How many of some invitees can be read. -/
def inviteesRead : ℕ → ByteBuffer → ℕ
  | 0, _ => 0
  | n + 1, recvData =>
    match readInvitee recvData with
    | .error _ => 0
    | .ok (_, recvData) => inviteesRead n recvData + 1

/-- **The packet has all of its invitees or none.** -/
def addEventWhole (c : Caller) (recvData : ByteBuffer) : Bool :=
  match readEventFields c recvData with
  | .error _ => true
  | .ok (fields, recvData) =>
    fields.flags &&& 0x40 != 0 ||
      match readUInt .uint32 recvData with
      | .error _ => true
      | .ok (inviteCount, recvData) =>
        inviteesRead inviteCount recvData == 0 || inviteesRead inviteCount recvData == inviteCount

theorem Kept.addInvites {c : Caller} {e : CalendarEvent} (n : ℕ) (h : Kept m [e.eventId])
    (recvData : ByteBuffer) : Kept (addInvites c e n m recvData).1 [e.eventId] := by
  induction n generalizing m recvData with
  | zero => exact h
  | succ n ih =>
    unfold CalendarMgr.addInvites
    split
    · exact h
    · exact ih (h.addNewInvite (fun _ => rfl) fun _ => List.mem_cons_self) _

/-- The loop ends with an exception when not all invitees can be read; when none can be, it has done
nothing. -/
theorem addInvites_spec (c : Caller) (e : CalendarEvent) (n : ℕ) (m : CalendarMgr)
    (recvData : ByteBuffer) :
    ((addInvites c e n m recvData).2 = true ↔ inviteesRead n recvData = n) ∧
      (inviteesRead n recvData = 0 → (addInvites c e n m recvData).1 = m) := by
  induction n generalizing m recvData with
  | zero => exact ⟨iff_of_true rfl rfl, fun _ => rfl⟩
  | succ n ih =>
    unfold CalendarMgr.addInvites inviteesRead
    cases readInvitee recvData with
    | error _ => exact ⟨iff_of_false Bool.false_ne_true (Nat.succ_ne_zero n).symm, fun _ => rfl⟩
    | ok r =>
      refine ⟨(ih _ _).1.trans ⟨fun h => congrArg (· + 1) h, Nat.succ.inj⟩, fun h => ?_⟩
      exact absurd h (Nat.succ_ne_zero _)

theorem Kept.handleAddEvent (h : Kept m []) (c : Caller) {recvData : ByteBuffer}
    (hwhole : addEventWhole c recvData = true) : Kept (m.HandleCalendarAddEvent c recvData) [] := by
  unfold addEventWhole at hwhole
  unfold HandleCalendarAddEvent
  cases hfields : readEventFields c recvData with
  | error _ => exact h
  | ok r =>
    rw [hfields] at hwhole
    dsimp only at hwhole ⊢
    have hmake := h.make
    generalize he : newEvent c r.1 m._eventIds.get.1 = e
    have hid : e.eventId = m._eventIds.get.1 := by
      rw [← he]
      rfl
    rw [← hid] at hmake
    split
    · exact (hmake.addNewInvite (fun _ => rfl) fun _ => List.mem_cons_self).addEvent
    · rename_i hannounced
      have hflags : ¬(r.1.flags &&& 0x40 != 0) = true := by
        rw [← he] at hannounced
        exact hannounced
      have hwhole := ((Bool.or_eq_true _ _).mp hwhole).resolve_left hflags
      cases hcount : readUInt .uint32 r.2 with
      | error _ => exact h.lose
      | ok s =>
        rw [hcount] at hwhole
        dsimp only at hwhole ⊢
        rw [Bool.or_eq_true, beq_iff_eq, beq_iff_eq] at hwhole
        obtain ⟨hall, hnone⟩ :=
          addInvites_spec c e s.1 { m with _eventIds := m._eventIds.get.2 } s.2
        split
        · exact (hmake.addInvites s.1 s.2).addEvent
        · rename_i hends
          rw [hnone (hwhole.resolve_right fun heq => hends (hall.mpr heq))]
          exact h.lose

theorem Kept.handleCopyEvent (h : Kept m []) (c : Caller) (recvData : ByteBuffer) :
    Kept (m.HandleCalendarCopyEvent c recvData) [] := by
  unfold HandleCalendarCopyEvent
  dsimp only
  split
  · exact h
  · split
    · exact h.result _ _
    · rename_i e _
      refine (foldl_invariant (fun m' => Kept m' [] ∧ m._eventIds.get.1 ∈ m'.eventIds)
        (fun m' invite _ hm => ?_) ?_).1
      · refine ⟨hm.1.addNewInvite (fun _ => rfl) fun _ => hm.2, ?_⟩
        unfold CalendarMgr.addNewInvite CalendarMgr.AddInvite
        split
        · exact hm.2
        · exact hm.2
      · refine ⟨Kept.addEvent h.make, ?_⟩
        exact List.mem_map.mpr ⟨_, List.mem_append_right _ List.mem_cons_self, rfl⟩

theorem mem_eventIds {eventId : ℕ} {e : CalendarEvent} (h : m.GetEvent eventId = some e) :
    eventId ∈ m.eventIds := by
  exact List.mem_map.mpr ⟨e, List.mem_of_find?_eq_some h, by simpa using List.find?_some h⟩

theorem Kept.changeInvite (h : Kept m making) (c : Caller) (eventId inviteId : ℕ)
    {f : CalendarInvite → CalendarInvite} (hf : ∀ i, (f i).inviteId = i.inviteId) :
    Kept (m.changeInvite c eventId inviteId f) making := by
  unfold CalendarMgr.changeInvite
  split
  · exact h.result _ _
  · split
    · exact h.result _ _
    · exact h.modifyInvite inviteId hf

/-! ## Runs -/

/-- **A step that does no harm**: no exception between two invites, and no character goes that has
made an event. -/
def Harmless (m : CalendarMgr) : Op → Prop
  | .addEvent c recvData => addEventWhole c recvData = true
  | .deleteCharacter guid => ∀ e ∈ m._events, e.creatorGUID ≠ guid
  | _ => True

instance (m : CalendarMgr) : ∀ op, Decidable (Harmless m op) := by
  intro op
  cases op <;> dsimp only [Harmless] <;> infer_instance

theorem Kept.step (h : Kept m []) {op : Op} (hop : Harmless m op) :
    ∃ m', step m op = some m' ∧ Kept m' [] := by
  cases op with
  | addEvent c recvData => exact ⟨_, rfl, h.handleAddEvent c hop⟩
  | updateEvent c recvData =>
    refine ⟨_, rfl, ?_⟩
    unfold HandleCalendarUpdateEvent
    dsimp only
    split
    · exact h
    · split
      · exact h.result _ _
      · exact h.modifyEvent _ fun _ => rfl
  | removeEvent c recvData =>
    refine ⟨_, rfl, ?_⟩
    unfold HandleCalendarRemoveEvent
    split
    · exact h
    · exact h.removeEvent _ _
  | copyEvent c recvData => exact ⟨_, rfl, h.handleCopyEvent c recvData⟩
  | eventInvite c findPlayer recvData =>
    refine ⟨_, rfl, ?_⟩
    unfold HandleCalendarEventInvite
    dsimp only
    repeat' split
    all_goals first
      | exact h
      | exact h.result _ _
      | skip
    rename_i hfind _
    exact h.addNewInvite (fun _ => rfl) fun _ => mem_eventIds hfind
  | eventSignup c recvData =>
    refine ⟨_, rfl, ?_⟩
    unfold HandleCalendarEventSignup
    dsimp only
    split
    · exact h
    · split
      · exact h.result _ _
      · rename_i hfind
        split
        · exact h.result _ _
        · exact h.addNewInvite (fun _ => rfl) fun _ => mem_eventIds hfind
  | eventRsvp c recvData =>
    refine ⟨_, rfl, ?_⟩
    unfold HandleCalendarEventRsvp
    dsimp only
    split
    · exact h
    · split
      · exact h.result _ _
      · exact h.changeInvite c _ _ fun _ => rfl
  | eventRemoveInvite c recvData =>
    refine ⟨_, rfl, ?_⟩
    unfold HandleCalendarEventRemoveInvite
    dsimp only
    split
    · exact h
    · split
      · exact h.result _ _
      · split
        · exact h.result _ _
        · exact h.removeInvite _ _
  | eventStatus c recvData =>
    refine ⟨_, rfl, ?_⟩
    unfold HandleCalendarEventStatus
    split
    · exact h
    · exact h.changeInvite c _ _ fun _ => rfl
  | eventModeratorStatus c recvData =>
    refine ⟨_, rfl, ?_⟩
    unfold HandleCalendarEventModeratorStatus
    split
    · exact h
    · exact h.changeInvite c _ _ fun _ => rfl
  | deleteCharacter guid =>
    have hnone : (m._events.any fun e => e.creatorGUID = guid) = false :=
      List.any_eq_false.mpr fun e he => by simpa using hop e he
    refine ⟨_, if_neg (by rw [hnone]; exact Bool.false_ne_true), ?_⟩
    exact foldl_invariant (Kept · []) (fun m invite _ h => h.removeInvite _ _) h

/-! ## What is loaded -/

variable (g : OrderedMap ℕ (List CalendarInvite)) (i : CalendarInvite)

/-- An invite is put with the others of its event. -/
def groupInvite : OrderedMap ℕ (List CalendarInvite) :=
  g.set i.eventId ((g.find? i.eventId).getD [] ++ [i])

theorem groupInvite_perm : (groupInvite g i).values.flatten.Perm (i :: g.values.flatten) := by
  have hset := (values_set_perm g i.eventId ((g.find? i.eventId).getD [] ++ [i])).flatten
  rw [List.flatten_cons] at hset
  refine hset.trans ?_
  cases h : g.find? i.eventId with
  | none =>
    rw [erase_of_find?_eq_none h]
    exact .refl _
  | some l =>
    have herase := (values_perm_erase h).flatten
    rw [List.flatten_cons] at herase
    refine (List.perm_append_singleton i l).append_right _ |>.trans ?_
    exact herase.symm.cons i

theorem groupInvites_spec (invites : List CalendarInvite) (g : OrderedMap ℕ (List CalendarInvite)) :
    (invites.foldl groupInvite g).values.flatten.Perm (invites ++ g.values.flatten) ∧
      ∀ id, ((invites.foldl groupInvite g).find? id).getD [] ≠ [] →
        id ∈ invites.map (·.eventId) ∨ (g.find? id).getD [] ≠ [] := by
  induction invites generalizing g with
  | nil => exact ⟨.refl _, fun id => .inr⟩
  | cons i invites ih =>
    obtain ⟨hperm, hevent⟩ := ih (groupInvite g i)
    refine ⟨hperm.trans (((groupInvite_perm g i).append_left _).trans List.perm_middle),
      fun id hne => ?_⟩
    rcases hevent id hne with hmem | hfirst
    · exact .inl (List.mem_cons_of_mem _ hmem)
    · unfold groupInvite at hfirst
      by_cases hsame : id = i.eventId
      · exact .inl (hsame ▸ List.mem_cons_self)
      · rw [find?_set_of_ne _ _ hsame] at hfirst
        exact .inr hfirst

theorem kept_LoadFromDB (rows : Rows) : Kept (LoadFromDB rows) [] := by
  obtain ⟨hperm, hevent⟩ := groupInvites_spec rows.invites .empty
  rw [show (OrderedMap.empty : OrderedMap ℕ (List CalendarInvite)).values.flatten = [] from rfl,
    List.append_nil] at hperm
  refine ⟨IdPool.sound_load rows.events_nodup, ?_, fun id hne => ?_⟩
  · refine (IdPool.sound_load rows.invites_nodup).perm ?_
    exact hperm.symm.map (·.inviteId)
  · obtain ⟨i, hi, rfl⟩ := List.mem_map.mp ((hevent id hne).resolve_right fun h => h rfl)
    exact rows.hasEvent i hi

/-- **Every invite has its event**, and no id is used twice or given out while it is in use. -/
structure CalendarSound (m : CalendarMgr) : Prop where
  hasEvent : ∀ id, m.GetEventInvites id ≠ [] → ∃ e ∈ m._events, e.eventId = id
  events_nodup : (m._events.map (·.eventId)).Nodup
  invites_nodup : (m._invites.values.flatten.map (·.inviteId)).Nodup
  freeEventId : ∀ e ∈ m._events, m._eventIds.get.1 ≠ e.eventId
  freeInviteId : ∀ i ∈ m._invites.values.flatten, m._inviteIds.get.1 ≠ i.inviteId

theorem Kept.sound (h : Kept m []) : CalendarSound m where
  hasEvent id hne := List.mem_map.mp (h.hasEvent id hne)
  events_nodup := h.events.nodup_used
  invites_nodup := h.invites.nodup_used
  freeEventId e he heq := h.events.get_not_mem (List.mem_map.mpr ⟨e, he, heq.symm⟩)
  freeInviteId i hi heq := h.invites.get_not_mem (List.mem_map.mpr ⟨i, hi, heq.symm⟩)

/-- **A calendar stays sound** over every run in which the packets that add events have all of their
invites or none, and no character is deleted that has made an event. -/
theorem calendarSound_run (rows : Rows) {ops : List Op}
    (h : Admissible (stepOption Calendar.step) (fun m? op => ∀ m ∈ m?, Harmless m op)
      (some (LoadFromDB rows)) ops) :
    ∃ m, run (stepOption Calendar.step) (some (LoadFromDB rows)) ops = some m ∧
      CalendarSound m := by
  obtain ⟨m, hm, hkept⟩ := run_stepOption_invariant (Kept · [])
    (fun _ _ hkept hop => hkept.step hop) (kept_LoadFromDB rows) h
  exact ⟨m, hm, hkept.sound⟩

/-- A calendar of which nothing is stored. -/
def Rows.none : Rows where
  events := []
  invites := []
  events_nodup := .nil
  invites_nodup := .nil
  hasEvent _ hi := absurd hi List.not_mem_nil

/-- A player, whose packed times are seconds. -/
def Caller.ofGuid (guid : ℕ) : Caller where
  guid := guid
  guildId := 0
  now := 0
  packedTime value := value.toNat

/-- A packet that has arrived. -/
def packet (bytes : List (BitVec 8)) : ByteBuffer := ⟨0, bytes.length, bytes⟩

/-- What a packet says about an event that has no title, and how many invitees it has. -/
def addEventBytes (inviteCount : BitVec 8) : List (BitVec 8) :=
  List.replicate 24 0 ++ [inviteCount, 0, 0, 0]

theorem calendarSound_run_player :
    ∃ m, run (stepOption Calendar.step) (some (LoadFromDB .none))
        [.addEvent (.ofGuid 1) (packet (addEventBytes 1 ++ [1, 2, 0, 0])),
          .eventSignup (.ofGuid 3) (packet [2, 0, 0, 0, 0, 0, 0, 0, 0]),
          .deleteCharacter 2, .removeEvent (.ofGuid 1) (packet [2, 0, 0, 0, 0, 0, 0, 0])] = some m ∧
      CalendarSound m := by
  have hharmless : Admissible (stepOption Calendar.step) (fun m? op => ∀ m ∈ m?, Harmless m op)
      (some (LoadFromDB .none))
      [.addEvent (.ofGuid 1) (packet (addEventBytes 1 ++ [1, 2, 0, 0])),
        .eventSignup (.ofGuid 3) (packet [2, 0, 0, 0, 0, 0, 0, 0, 0]),
        .deleteCharacter 2, .removeEvent (.ofGuid 1) (packet [2, 0, 0, 0, 0, 0, 0, 0])] := by
    decide +kernel
  exact calendarSound_run .none hharmless

/-- The calendar is sound after all packets and deletions. -/
def AlwaysSound : Prop :=
  ∀ rows ops, ∃ m, run (stepOption Calendar.step) (some (LoadFromDB rows)) ops = some m ∧
    CalendarSound m

/-- **A packet that ends after the first of two invitees** leaves an invite that has no event. -/
theorem invite_without_event : ¬AlwaysSound := by
  intro hall
  obtain ⟨m, hm, hsound⟩ := hall .none
    [.addEvent (.ofGuid 1) (packet (addEventBytes 2 ++ [1, 2, 0, 0]))]
  have hm : m = (LoadFromDB .none).HandleCalendarAddEvent (.ofGuid 1)
      (packet (addEventBytes 2 ++ [1, 2, 0, 0])) := (Option.some.inj hm).symm
  subst hm
  have hstays : ((LoadFromDB .none).HandleCalendarAddEvent (.ofGuid 1)
      (packet (addEventBytes 2 ++ [1, 2, 0, 0]))).GetEventInvites 2 ≠ [] := by
    decide +kernel
  have hnone : ((LoadFromDB .none).HandleCalendarAddEvent (.ofGuid 1)
      (packet (addEventBytes 2 ++ [1, 2, 0, 0])))._events = [] := by
    decide +kernel
  obtain ⟨e, he, -⟩ := hsound.hasEvent 2 hstays
  rw [hnone] at he
  cases he

end CalendarMgr

end TeraCore.Calendar
