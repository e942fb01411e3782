import TeraCore.Calendar.InvitesHaveEvents

/-!
# What a character leaves in the calendar

When a character is deleted, the events that he made are to be removed, and the invites that he has;
when he leaves his guild, those of the guild.  The loop over the events removes an event from the
set that it goes through, and then it goes on from the entry that was erased.

So the calendar is cleaned only where no event is to be removed.  And an invite goes only if there
is an event for it.

## Main results

* `removeEvents_eq`: the loop has a result where there is nothing to remove
* `getEventInvites_removeInvites`: what is left when some invites are removed
* `cleaned_iff`: when the calendar is cleaned
-/

namespace TeraCore.Calendar

open Commons

namespace CalendarMgr

section Functions

variable (m : CalendarMgr)

/-- **The loop over the events**, some of which are removed.  It goes on from the entry where it is;
where that was erased, there is no next one. -/
def removeEvents (gone : CalendarEvent → Bool) (remover : ℕ) :
    List CalendarEvent → CalendarMgr → Option CalendarMgr
  | [], m => some m
  | e :: es, m =>
    if gone e then
      let m := m.RemoveEvent e.eventId remover
      if e ∈ m._events then removeEvents gone remover es m else none
    else removeEvents gone remover es m

/-- Invites are removed, one after the other. -/
def removeInvites (invites : List CalendarInvite) : CalendarMgr :=
  invites.foldl (fun m invite => m.RemoveInvite invite.inviteId invite.eventId) m

/-- The player's events for a guild. -/
def isGuildEventOf (guid : ℕ) (e : CalendarEvent) : Bool :=
  e.creatorGUID = guid && (e.IsGuildEvent || e.IsGuildAnnouncement)

/-- The invite is for an event of the guild. -/
def isSignup (guildId : ℕ) (invite : CalendarInvite) : Bool :=
  (m.GetEvent invite.eventId).any fun e => e.IsGuildEvent && e.guildId = guildId

def RemovePlayerGuildEventsAndSignups (guid guildId : ℕ) : Option CalendarMgr :=
  (removeEvents (isGuildEventOf guid) guid m._events m).map fun m =>
    (m.GetPlayerInvites guid).foldl (fun m invite =>
      if m.isSignup guildId invite then m.RemoveInvite invite.inviteId invite.eventId else m) m

end Functions

/-- **What is in a calendar**: no id is used twice, and invites are kept by the ids of their
events. -/
structure Filed (m : CalendarMgr) : Prop where
  events_nodup : m.eventIds.Nodup
  invites_nodup : m.inviteIds.Nodup
  filed : ∀ id, ∀ i ∈ m.GetEventInvites id, i.eventId = id

/-- **A calendar that was cleaned**: some events are gone with all of their invites, and of the
invites of others some. -/
structure Cleaned (m m' : CalendarMgr) (gone : CalendarEvent → Bool)
    (leaves : CalendarInvite → Bool) : Prop where
  events : m'._events = m._events.filter fun e => !gone e
  invites : ∀ id, m'.GetEventInvites id =
    if (m.GetEvent id).any gone then [] else (m.GetEventInvites id).filter fun i => !leaves i

variable {m : CalendarMgr} {gone : CalendarEvent → Bool} {guid guildId : ℕ}

/-! ## What is loaded -/

theorem mem_groupInvite {g : OrderedMap ℕ (List CalendarInvite)} {i j : CalendarInvite} {id : ℕ}
    (h : j ∈ ((groupInvite g i).find? id).getD []) :
    j ∈ (g.find? id).getD [] ∨ j = i ∧ id = i.eventId := by
  unfold groupInvite at h
  rw [OrderedMap.find?_set] at h
  by_cases hsame : id = i.eventId
  · rw [if_pos hsame, Option.getD_some, List.mem_append, List.mem_singleton] at h
    exact h.imp (fun hj => hsame ▸ hj) fun hj => ⟨hj, hsame⟩
  · rw [if_neg hsame] at h
    exact .inl h

theorem filed_LoadFromDB (rows : Rows) : (LoadFromDB rows).Filed where
  events_nodup := rows.events_nodup
  invites_nodup := (kept_LoadFromDB rows).invites.nodup_used
  filed := by
    have hgroup : ∀ invites : List CalendarInvite, ∀ g : OrderedMap ℕ (List CalendarInvite),
        (∀ id, ∀ j ∈ (g.find? id).getD [], j.eventId = id) →
        ∀ id, ∀ j ∈ ((invites.foldl groupInvite g).find? id).getD [], j.eventId = id := by
      intro invites
      induction invites with
      | nil => exact fun g hg => hg
      | cons i invites ih =>
        refine fun g hg => ih _ fun id j hj => ?_
        rcases mem_groupInvite hj with hj | ⟨rfl, rfl⟩
        · exact hg id j hj
        · rfl
    exact hgroup rows.invites .empty fun id j hj => absurd hj List.not_mem_nil

/-! ## Events -/

theorem Filed.getEvent_eq (hm : m.Filed) {e : CalendarEvent} (he : e ∈ m._events) :
    m.GetEvent e.eventId = some e := by
  refine find?_eq_some_of_unique he (by simp) fun e' he' hid => ?_
  exact List.inj_on_of_nodup_map hm.events_nodup he' he (by simpa using hid)

theorem Filed.not_mem_removeEvent (hm : m.Filed) {e : CalendarEvent} (he : e ∈ m._events)
    (remover : ℕ) : e ∉ (m.RemoveEvent e.eventId remover)._events := by
  have hfind := hm.getEvent_eq he
  simp only [RemoveEvent, hfind]
  have hperm := (perm_eraseP hfind).map (·.eventId)
  have hnodup := hperm.nodup_iff.mp hm.events_nodup
  rw [List.map_cons, List.nodup_cons] at hnodup
  exact fun hmem => hnodup.1 (List.mem_map_of_mem hmem)

/-- **The loop over the events has a result** where there is nothing to remove. -/
theorem removeEvents_eq (hm : m.Filed) (gone : CalendarEvent → Bool) (remover : ℕ) :
    removeEvents gone remover m._events m = if m._events.any gone then none else some m := by
  have hall : ∀ es : List CalendarEvent, (∀ e ∈ es, e ∈ m._events) →
      removeEvents gone remover es m = if es.any gone then none else some m := by
    intro es
    induction es with
    | nil => exact fun _ => rfl
    | cons e es ih =>
      intro hes
      obtain ⟨he, hes⟩ := List.forall_mem_cons.mp hes
      unfold removeEvents
      cases hgone : gone e with
      | true => simp [hgone, hm.not_mem_removeEvent he]
      | false => simpa [hgone] using ih hes
  exact hall m._events fun _ he => he

theorem removeAllPlayerEventsAndInvites_eq (hm : m.Filed) (guid : ℕ) :
    m.RemoveAllPlayerEventsAndInvites guid =
      (removeEvents (fun e => e.creatorGUID = guid) 0 m._events m).map fun m =>
        m.removeInvites (m.GetPlayerInvites guid) := by
  rw [removeEvents_eq hm]
  unfold RemoveAllPlayerEventsAndInvites
  split_ifs <;> rfl

/-! ## Invites -/

theorem eraseP_eq_filter {α β : Type} [DecidableEq β] {key : α → β} {l : List α} {x : β}
    (hl : (l.map key).Nodup) : l.eraseP (fun i => key i = x) = l.filter fun i => !(key i = x) := by
  induction l with
  | nil => rfl
  | cons y l ih =>
    rw [List.map_cons, List.nodup_cons] at hl
    by_cases hy : key y = x
    · rw [List.eraseP_cons_of_pos (by simpa using hy), List.filter_cons_of_neg (by simp [hy]),
        List.filter_eq_self.mpr]
      intro z hz
      have hne : key z ≠ x := fun heq => hl.1 (hy ▸ heq ▸ List.mem_map_of_mem hz)
      simp [hne]
    · rw [List.eraseP_cons_of_neg (by simpa using hy), List.filter_cons_of_pos (by simp [hy]),
        ih hl.2]

theorem events_removeInvite (inviteId eventId : ℕ) :
    (m.RemoveInvite inviteId eventId)._events = m._events := by
  unfold RemoveInvite
  split
  · rfl
  · split <;> rfl

theorem getEvent_removeInvite (inviteId eventId id : ℕ) :
    (m.RemoveInvite inviteId eventId).GetEvent id = m.GetEvent id := by
  rw [GetEvent, events_removeInvite, GetEvent]

theorem getEventInvites_removeInvite
    (hm : ∀ id, ((m.GetEventInvites id).map (·.inviteId)).Nodup) (inviteId eventId id : ℕ) :
    (m.RemoveInvite inviteId eventId).GetEventInvites id =
      (m.GetEventInvites id).filter fun i =>
        !((m.GetEvent id).isSome && (eventId = id && i.inviteId = inviteId)) := by
  by_cases hsame : eventId = id
  · subst hsame
    unfold RemoveInvite
    cases hevent : m.GetEvent eventId with
    | none => simp
    | some e =>
      have hfilter : (m.GetEventInvites eventId).eraseP (fun i => i.inviteId = inviteId) =
          (m.GetEventInvites eventId).filter fun i => !(i.inviteId = inviteId) :=
        eraseP_eq_filter (hm eventId)
      cases hfind : (m.GetEventInvites eventId).find? fun i => i.inviteId = inviteId with
      | none =>
        rw [List.find?_eq_none] at hfind
        exact (List.filter_eq_self.mpr fun i hi => by simpa using hfind i hi).symm
      | some invite =>
        refine (m.GetEventInvites_set eventId eventId _).trans ?_
        rw [if_pos rfl, hfilter]
        simp
  · have hkept : (m.RemoveInvite inviteId eventId).GetEventInvites id = m.GetEventInvites id := by
      unfold RemoveInvite
      split
      · rfl
      · split
        · rfl
        · exact (m.GetEventInvites_set eventId id _).trans (if_neg fun heq => hsame heq.symm)
    rw [hkept]
    exact (List.filter_eq_self.mpr fun i _ => by simp [hsame]).symm

theorem getEventInvites_removeInvites (invites : List CalendarInvite)
    (hm : ∀ id, ((m.GetEventInvites id).map (·.inviteId)).Nodup) :
    (m.removeInvites invites)._events = m._events ∧
      ∀ id, (m.removeInvites invites).GetEventInvites id =
        (m.GetEventInvites id).filter fun i => !((m.GetEvent id).isSome &&
          invites.any fun j => j.eventId = id && i.inviteId = j.inviteId) := by
  unfold removeInvites
  induction invites generalizing m with
  | nil => exact ⟨rfl, fun id => by simp⟩
  | cons j invites ih =>
    have hone := getEventInvites_removeInvite hm j.inviteId j.eventId
    obtain ⟨hevents, hall⟩ := ih (m := m.RemoveInvite j.inviteId j.eventId) fun id => by
      rw [hone id]
      exact (hm id).sublist (List.filter_sublist.map _)
    refine ⟨hevents.trans (events_removeInvite _ _), fun id => ?_⟩
    rw [List.foldl_cons, hall id, hone id, List.filter_filter, getEvent_removeInvite]
    refine List.filter_congr fun i _ => ?_
    rw [List.any_cons]
    cases (m.GetEvent id).isSome <;> simp [Bool.and_comm]

theorem Filed.nodup (hm : m.Filed) (id : ℕ) : ((m.GetEventInvites id).map (·.inviteId)).Nodup :=
  ((m.inviteIds_perm id).nodup_iff.mp hm.invites_nodup).of_append_left

theorem mem_flatten_of_mem {id : ℕ} {i : CalendarInvite} (h : i ∈ m.GetEventInvites id) :
    i ∈ m._invites.values.flatten := by
  unfold GetEventInvites at h
  cases hl : m._invites.find? id with
  | none =>
    rw [hl] at h
    cases h
  | some l =>
    rw [hl] at h
    exact List.mem_flatten_of_mem (OrderedMap.mem_values.mpr ⟨id, hl⟩) h

theorem mem_getEventInvites (hm : m.Filed) {i : CalendarInvite}
    (h : i ∈ m._invites.values.flatten) : i ∈ m.GetEventInvites i.eventId := by
  obtain ⟨l, hl, hi⟩ := List.mem_flatten.mp h
  obtain ⟨id, hid⟩ := OrderedMap.mem_values.mp hl
  have hmem : i ∈ m.GetEventInvites id := by
    rw [GetEventInvites, hid]
    exact hi
  rw [hm.filed id i hmem]
  exact hmem

theorem getEventInvites_removePlayerInvites (hm : m.Filed) (guid : ℕ) (p : CalendarInvite → Bool)
    (id : ℕ) : (m.removeInvites ((m.GetPlayerInvites guid).filter p)).GetEventInvites id =
      (m.GetEventInvites id).filter fun i =>
        !((m.GetEvent id).isSome && (i.invitee = guid && p i)) := by
  rw [(getEventInvites_removeInvites _ hm.nodup).2 id]
  refine List.filter_congr fun i hi => ?_
  congr 2
  rw [Bool.eq_iff_iff]
  simp only [List.any_eq_true, GetPlayerInvites, List.mem_filter, Bool.and_eq_true,
    decide_eq_true_eq]
  constructor
  · rintro ⟨j, ⟨⟨hj, hinvitee⟩, hp⟩, -, hsame⟩
    obtain rfl := List.inj_on_of_nodup_map hm.invites_nodup (mem_flatten_of_mem hi) hj hsame
    exact ⟨hinvitee, hp⟩
  · rintro ⟨hinvitee, hp⟩
    exact ⟨i, ⟨⟨mem_flatten_of_mem hi, hinvitee⟩, hp⟩, hm.filed id i hi, rfl⟩

/-! ## When the calendar is cleaned -/

theorem any_gone_eq_false (h : m._events.any gone = false) (id : ℕ) :
    (m.GetEvent id).any gone = false := by
  rw [List.any_eq_false] at h
  rw [Option.any_eq_false]
  exact fun e he => by simpa using h e (List.mem_of_find?_eq_some he)

theorem cleaned_removeInvites (hm : m.Filed) (guid : ℕ) (p : CalendarInvite → Bool)
    (hgone : m._events.any gone = false) :
    m.Cleaned (m.removeInvites ((m.GetPlayerInvites guid).filter p)) gone
        (fun i => i.invitee = guid && p i) ↔
      ∀ i ∈ m.GetPlayerInvites guid, p i = true → i.eventId ∈ m.eventIds := by
  have hleft := getEventInvites_removePlayerInvites hm guid p
  constructor
  · intro h i hi hp
    simp only [GetPlayerInvites, List.mem_filter, decide_eq_true_eq] at hi
    have hmem := mem_getEventInvites hm hi.1
    cases hevent : m.GetEvent i.eventId with
    | some e => exact mem_eventIds hevent
    | none =>
      -- the invite would stay, as there is no event for it
      have hcleaned := h.invites i.eventId
      rw [any_gone_eq_false hgone, hleft, hevent] at hcleaned
      have hstays : i ∈ (m.GetEventInvites i.eventId).filter
          fun i => !(i.invitee = guid && p i) := by
        rw [if_neg Bool.false_ne_true] at hcleaned
        rw [← hcleaned]
        simpa using hmem
      simp [hi.2, hp] at hstays
  · intro h
    refine ⟨?_, fun id => ?_⟩
    · rw [(getEventInvites_removeInvites _ hm.nodup).1, eq_comm, List.filter_eq_self]
      rw [List.any_eq_false] at hgone
      exact fun e he => by simpa using hgone e he
    · rw [any_gone_eq_false hgone, if_neg Bool.false_ne_true, hleft]
      refine List.filter_congr fun i hi => ?_
      cases hevent : m.GetEvent id with
      | some e => rfl
      | none =>
        have hflat := mem_flatten_of_mem hi
        have hnot : ¬ i.invitee = guid ∨ p i = false := by
          rw [← Bool.not_eq_true, ← not_and_or]
          rintro ⟨hinvitee, hp⟩
          have hid := h i (List.mem_filter.mpr ⟨hflat, by simpa using hinvitee⟩) hp
          obtain ⟨e, he, heq⟩ := List.mem_map.mp hid
          have hsome := hm.getEvent_eq he
          rw [heq, hm.filed id i hi, hevent] at hsome
          cases hsome
        simpa using hnot

theorem foldl_isSignup (guildId : ℕ) (invites : List CalendarInvite) :
    invites.foldl (fun m invite =>
        if m.isSignup guildId invite then m.RemoveInvite invite.inviteId invite.eventId else m) m =
      m.removeInvites (invites.filter (m.isSignup guildId)) := by
  unfold removeInvites
  induction invites generalizing m with
  | nil => rfl
  | cons i invites ih =>
    have hsame (inviteId eventId : ℕ) :
        (m.RemoveInvite inviteId eventId).isSignup guildId = m.isSignup guildId := by
      funext invite
      rw [isSignup, getEvent_removeInvite, isSignup]
    rw [List.foldl_cons]
    cases hpick : m.isSignup guildId i with
    | true =>
      rw [List.filter_cons_of_pos hpick, List.foldl_cons, if_pos rfl, ih, hsame]
    | false =>
      rw [List.filter_cons_of_neg (by simp [hpick]), if_neg Bool.false_ne_true, ih]

theorem mem_eventIds_of_isSignup {i : CalendarInvite} (h : m.isSignup guildId i = true) :
    i.eventId ∈ m.eventIds := by
  obtain ⟨e, he, -⟩ := (Option.any_eq_true _ _).mp h
  exact mem_eventIds he

theorem cleans_iff (hm : m.Filed) (gone : CalendarEvent → Bool) (guid remover : ℕ)
    (p : CalendarInvite → Bool) :
    (∃ m', (removeEvents gone remover m._events m).map (fun m =>
        m.removeInvites ((m.GetPlayerInvites guid).filter p)) = some m' ∧
      m.Cleaned m' gone (fun i => i.invitee = guid && p i)) ↔
      m._events.any gone = false ∧
        ∀ i ∈ m.GetPlayerInvites guid, p i = true → i.eventId ∈ m.eventIds := by
  rw [removeEvents_eq hm]
  cases hgone : m._events.any gone with
  | true => simp
  | false => simp [cleaned_removeInvites hm guid p hgone]

/-- **When the calendar is cleaned** of what a deleted character has left, and of what a guild
member has left: where there is no event to remove, and the invites of a deleted character have
events. -/
theorem cleaned_iff (hm : m.Filed) (guid guildId : ℕ) :
    ((∃ m', m.RemoveAllPlayerEventsAndInvites guid = some m' ∧
        m.Cleaned m' (fun e => e.creatorGUID = guid) fun i => i.invitee = guid) ↔
      (∀ e ∈ m._events, e.creatorGUID ≠ guid) ∧
        ∀ i ∈ m.GetPlayerInvites guid, i.eventId ∈ m.eventIds) ∧
    ((∃ m', m.RemovePlayerGuildEventsAndSignups guid guildId = some m' ∧
        m.Cleaned m' (isGuildEventOf guid) fun i => i.invitee = guid && m.isSignup guildId i) ↔
      ∀ e ∈ m._events, isGuildEventOf guid e = false) := by
  constructor
  · have hall := cleans_iff hm (fun e => e.creatorGUID = guid) guid 0 fun _ => true
    simp only [List.filter_true, Bool.and_true, true_imp_iff, List.any_eq_false,
      decide_eq_true_eq] at hall
    rw [removeAllPlayerEventsAndInvites_eq hm]
    exact hall
  · have hguild := cleans_iff hm (isGuildEventOf guid) guid guid (m.isSignup guildId)
    have hfold : (removeEvents (isGuildEventOf guid) guid m._events m).map (fun m =>
        m.removeInvites ((m.GetPlayerInvites guid).filter (m.isSignup guildId))) =
        m.RemovePlayerGuildEventsAndSignups guid guildId := by
      unfold RemovePlayerGuildEventsAndSignups
      simp only [foldl_isSignup]
    have hsame : (removeEvents (isGuildEventOf guid) guid m._events m).map (fun m' =>
        m'.removeInvites ((m'.GetPlayerInvites guid).filter (m.isSignup guildId))) =
        m.RemovePlayerGuildEventsAndSignups guid guildId := by
      rw [← hfold, removeEvents_eq hm]
      split_ifs <;> rfl
    rw [hsame] at hguild
    rw [hguild, List.any_eq_false]
    refine ⟨fun h e he => by simpa using h.1 e he, fun h => ⟨fun e he => by simp [h e he], ?_⟩⟩
    exact fun i _ hsignup => mem_eventIds_of_isSignup hsignup

/-! ## A character that has made an event -/

/-- An event that a player has made, and one to which he is invited. -/
def Rows.twoEvents : Rows where
  events := [⟨1, 7, 0, 0, 0, 0, 0, 0, [], []⟩, ⟨2, 8, 3, 0, 0, 0, 0x400, 0, [], []⟩]
  invites := [⟨1, 2, 7, 8, 0, 0, 0, []⟩]
  events_nodup := by decide
  invites_nodup := by decide
  hasEvent := by decide

/-- **The loop goes on from an event that it has erased.** -/
theorem not_cleaned :
    ¬ ∀ m : CalendarMgr, m.Filed → ∀ guid guildId,
      (∃ m', m.RemoveAllPlayerEventsAndInvites guid = some m' ∧
        m.Cleaned m' (fun e => e.creatorGUID = guid) fun i => i.invitee = guid) ∧
      ∃ m', m.RemovePlayerGuildEventsAndSignups guid guildId = some m' ∧
        m.Cleaned m' (isGuildEventOf guid) fun i => i.invitee = guid && m.isSignup guildId i := by
  intro hall
  obtain ⟨⟨m', hm', -⟩, -⟩ := hall (LoadFromDB Rows.twoEvents) (filed_LoadFromDB _) 7 3
  have hnone : (LoadFromDB Rows.twoEvents).RemoveAllPlayerEventsAndInvites 7 = none := by
    decide +kernel
  cases hnone.symm.trans hm'

/-- He has made no event for a guild. -/
theorem cleaned_iff_twoEvents :
    ∃ m', (LoadFromDB Rows.twoEvents).RemovePlayerGuildEventsAndSignups 7 3 = some m' ∧
      (LoadFromDB Rows.twoEvents).Cleaned m' (isGuildEventOf 7) fun i =>
        i.invitee = 7 && (LoadFromDB Rows.twoEvents).isSignup 3 i :=
  (cleaned_iff (filed_LoadFromDB Rows.twoEvents) 7 3).2.mpr (by decide)

end CalendarMgr

end TeraCore.Calendar
