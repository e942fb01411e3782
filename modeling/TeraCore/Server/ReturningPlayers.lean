import TeraCore.Server.LoginQueue

/-!
# Players who come back

A player whose session ended while it was not queued may come back past the queue for a time.  The
world keeps when that was for each account, and a login that would be queued looks for the account
there; times that are over are forgotten on the way.

`difftime` is asked for the time of the disconnect less the time now.  That is never positive, so it
is always below the tolerance: no time is ever over.

## Main results

* `Watched.bypassRight_iff`: when a login of a run is treated so
* `Watched.bypassRight_turns`: the same for the logins of `UpdateSessions`, after any calls of it
-/

namespace TeraCore.LoginQueue

open Commons

namespace World

variable {w : World} {sess : Address} {a : Arrival}

/-! ## What the queue does not change -/

/-- The sessions, the limit, and the times of disconnects. -/
def registered (w : World) : OrderedMap AccountId Address × ℕ × OrderedMap AccountId ℕ :=
  (w.m_sessions, w.m_playerLimit, w.m_disconnects)

@[simp] theorem registered_modify (f : WorldSession → WorldSession) :
    (w.modify sess f).registered = w.registered := by
  unfold modify
  split <;> rfl

@[simp] theorem registered_sendPositions (queue : List Address) (position : ℕ) :
    (w.sendPositions queue position).registered = w.registered := by
  induction queue generalizing w position with
  | nil => rfl
  | cons sess rest ih => exact (ih _).trans (registered_modify _)

theorem registered_takeOut : (w.takeOut sess).registered = w.registered := by
  unfold takeOut
  split
  · exact registered_modify (w := w) (.setInQueue false)
  · rfl

@[simp] theorem registered_RemoveQueuedPlayer :
    (w.RemoveQueuedPlayer sess).1.registered = w.registered := by
  refine Eq.trans (b := (w.takeOut sess).registered) ?_ registered_takeOut
  unfold RemoveQueuedPlayer
  dsimp only
  generalize (if sess ∈ w.m_QueuedPlayer then w.GetActiveSessionCount
    else w.GetActiveSessionCount - 1) = sessions
  split
  · rfl
  · split
    · exact (registered_sendPositions _ _).trans (registered_modify _)
    · exact registered_sendPositions _ _

theorem RemoveQueuedPlayer_snd :
    (w.RemoveQueuedPlayer sess).2 = decide (sess ∈ w.m_QueuedPlayer) := by
  unfold RemoveQueuedPlayer
  dsimp only
  split
  · rfl
  · split_ifs <;> rfl

/-! ## A login -/

/-- The sessions of other accounts. -/
def others (w : World) (a : Arrival) : ℕ := (w.m_sessions.erase a.accountId).size

/-- The session that the account has is in the queue. -/
def wasQueued (w : World) (a : Arrival) : Bool :=
  (w.m_sessions.find? a.accountId).any (· ∈ w.m_QueuedPlayer)

/-- The login is refused: the player of the account's session is loading. -/
def refused (w : World) (a : Arrival) : Bool :=
  (w.m_sessions.find? a.accountId).isSome && a.playerLoading

/-- **The login is weighed against the queue.**  A session that it replaces in the queue counts. -/
def LooksUp (w : World) (a : Arrival) : Prop :=
  w.refused a = false ∧ IsPlayerAccount a.security = true ∧ 0 < w.m_playerLimit ∧
    w.m_playerLimit ≤ w.others a + if w.wasQueued a then 1 else 0

/-- **The login is let straight in.** -/
def LetIn (w : World) (a : Arrival) : Prop :=
  w.refused a = false ∧ w.newAddress a.place ∉ (w.AddSession_ a).m_QueuedPlayer

theorem size_set (m : OrderedMap AccountId Address) (k : AccountId) (v : Address) :
    (m.set k v).size = (m.erase k).size + 1 := by
  have hlength := (m.values_set_perm k v).length_eq
  rwa [List.length_cons, OrderedMap.values, OrderedMap.values, List.length_map,
    List.length_map] at hlength

theorem RemoveSession_fields (w : World) (id : AccountId) (playerLoading : Bool) :
    (w.RemoveSession id playerLoading).1.registered = w.registered ∧
      (w.RemoveSession id playerLoading).1.m_QueuedPlayer = w.m_QueuedPlayer ∧
      (w.RemoveSession id playerLoading).2 =
        !((w.m_sessions.find? id).isSome && playerLoading) := by
  unfold RemoveSession
  cases w.m_sessions.find? id with
  | none => exact ⟨rfl, rfl, rfl⟩
  | some old =>
    cases playerLoading with
    | true => exact ⟨rfl, rfl, rfl⟩
    | false => exact ⟨registered_modify _, (modify_fields w old _).2.1, rfl⟩

theorem removeOld_fields (w : World) (id : AccountId) :
    (w.removeOld id).1.registered = w.registered ∧
      (w.removeOld id).2 = !(w.m_sessions.find? id).any (· ∈ w.m_QueuedPlayer) := by
  unfold removeOld
  cases w.m_sessions.find? id with
  | none => exact ⟨rfl, rfl⟩
  | some old => exact ⟨registered_RemoveQueuedPlayer, congrArg Bool.not RemoveQueuedPlayer_snd⟩

theorem AddSession_eq (h : w.refused a = false) :
    ∃ (w' : World) (b : Bool), w.AddSession_ a = w'.admitOrQueue a (w.newAddress a.place) b ∧
      w'.m_disconnects = w.m_disconnects ∧ w'.m_playerLimit = w.m_playerLimit ∧
      (if b then w'.GetActiveAndQueuedSessionCount - 1 else w'.GetActiveAndQueuedSessionCount) =
        w.others a + if w.wasQueued a then 1 else 0 := by
  obtain ⟨hkicked, hqueue, hgo⟩ := RemoveSession_fields
    { w with live := w.live.set (w.newAddress a.place) (.new a.accountId a.security) }
    a.accountId a.playerLoading
  rw [show ((w.m_sessions.find? a.accountId).isSome && a.playerLoading) = false from h] at hgo
  refine ⟨_, _, if_pos hgo, ?_⟩
  generalize (World.RemoveSession _ a.accountId a.playerLoading).1 = kicked at hkicked hqueue
  obtain ⟨hold, hqueued⟩ := kicked.removeOld_fields a.accountId
  have hregistered := hold.trans hkicked
  refine ⟨congrArg (fun r => r.2.2) hregistered, congrArg (fun r => r.2.1) hregistered, ?_⟩
  have hsessions : (kicked.removeOld a.accountId).1.m_sessions = w.m_sessions :=
    congrArg Prod.fst hregistered
  have hqueued' : (kicked.removeOld a.accountId).2 = !w.wasQueued a := by
    rw [hqueued, show kicked.m_sessions = w.m_sessions from congrArg Prod.fst hkicked, hqueue]
    rfl
  rw [hqueued', GetActiveAndQueuedSessionCount, size_set, hsessions, others]
  cases w.wasQueued a <;> rfl

theorem findDisconnect_of_past {c : Clock} (hc : c.tolerance ≠ 0) {account : AccountId}
    {m : OrderedMap AccountId ℕ} {es : List (AccountId × ℕ)} (hpast : ∀ e ∈ es, e.2 ≤ c.now) :
    findDisconnect c account m es = (m, es.any (·.1 = account)) := by
  induction es with
  | nil => rfl
  | cons e rest ih =>
    have hle : e.2 ≤ c.now := hpast e List.mem_cons_self
    have hbelow : (e.2 : ℤ) - c.now < c.tolerance := by omega
    rw [findDisconnect, if_pos hbelow, List.any_cons]
    by_cases hid : e.1 = account
    · rw [if_pos hid, decide_eq_true hid, Bool.true_or]
    · rw [if_neg hid, ih fun e' he' => hpast e' (List.mem_cons_of_mem _ he'), decide_eq_false hid,
        Bool.false_or]

/-- What is known of the times of disconnects. -/
def Past (w : World) (now : ℕ) : Prop := ∀ e ∈ w.m_disconnects.entries, e.2 ≤ now

theorem HasRecentlyDisconnected_of_past {c : Clock} (h : w.Past c.now) (account : AccountId) :
    (w.HasRecentlyDisconnected c account).1 = w ∧
      ((w.HasRecentlyDisconnected c account).2 = true → ∃ e ∈ w.m_disconnects.entries,
        e.1 = account) := by
  unfold HasRecentlyDisconnected
  split
  · exact ⟨rfl, nofun⟩
  · rename_i hc
    rw [findDisconnect_of_past hc h]
    exact ⟨rfl, fun hfound => by simpa using hfound⟩

theorem disconnects_admitOrQueue (h : w.Past a.clock.now) (b : Bool) :
    (w.admitOrQueue a sess b).m_disconnects = w.m_disconnects := by
  have hmodify : ∀ (w' : World) f, (w'.modify sess f).m_disconnects = w'.m_disconnects :=
    fun w' f => congrArg (fun r => r.2.2) (registered_modify f)
  unfold admitOrQueue
  dsimp only
  generalize (if b = true then w.GetActiveAndQueuedSessionCount - 1
    else w.GetActiveAndQueuedSessionCount) = Sessions
  rw [(HasRecentlyDisconnected_of_past h a.accountId).1]
  split
  · split
    · exact hmodify _ _
    · exact (hmodify _ _).trans (hmodify _ _)
  · exact hmodify _ _

theorem exists_of_letIn (h : w.Past a.clock.now) (hlooks : w.LooksUp a) (hin : w.LetIn a) :
    ∃ e ∈ w.m_disconnects.entries, e.1 = a.accountId := by
  obtain ⟨hrefused, hplayer, hlimit, hfull⟩ := hlooks
  obtain ⟨w', b, hadd, hdisconnects, hlimit', hsessions⟩ := AddSession_eq hrefused
  have hpast : w'.Past a.clock.now := by
    rw [Past, hdisconnects]
    exact h
  obtain ⟨hsame, hfound⟩ := HasRecentlyDisconnected_of_past hpast a.accountId
  rw [← hdisconnects]
  apply hfound
  by_contra hnot
  apply hin.2
  rw [hadd, admitOrQueue]
  rw [hsessions, hlimit', if_pos ⟨hlimit, hfull, hplayer⟩, if_neg hnot, hsame]
  change _ ∈ (w'.AddQueuedPlayer _).m_QueuedPlayer
  rw [AddQueuedPlayer, (modify_fields _ _ _).2.1]
  exact List.mem_append_right _ List.mem_cons_self

theorem disconnects_AddSession_ (h : w.Past a.clock.now) :
    (w.AddSession_ a).m_disconnects = w.m_disconnects := by
  cases hrefused : w.refused a with
  | false =>
    obtain ⟨w', b, hadd, hdisconnects, -⟩ := AddSession_eq hrefused
    have hpast : w'.Past a.clock.now := by
      rw [Past, hdisconnects]
      exact h
    rw [hadd, disconnects_admitOrQueue hpast, hdisconnects]
  | true =>
    obtain ⟨hkicked, -, hgo⟩ := RemoveSession_fields
      { w with live := w.live.set (w.newAddress a.place) (.new a.accountId a.security) }
      a.accountId a.playerLoading
    rw [show ((w.m_sessions.find? a.accountId).isSome && a.playerLoading) = true
      from hrefused] at hgo
    unfold AddSession_
    dsimp only
    split
    · rename_i hnot
      rw [hgo] at hnot
      cases hnot
    · exact congrArg (fun r => r.2.2) ((registered_modify _).trans hkicked)

end World

/-! ## Runs -/

open World

/-- **A world that is watched**: what time it is, and when each account's session ended last that
was not queued. -/
structure Watched where
  world : World
  now : ℕ
  lastDisconnect : AccountId → Option ℕ

/-- A login, a turn of the loop over the sessions, or a new limit. -/
inductive Event where
  | login (a : Arrival)
  | visit (c : Clock) (visit : AccountId × Bool)
  | setPlayerAmountLimit (limit : ℕ)

namespace Watched

/-- The session that is visited ends, and it is not in the queue. -/
def endsUnqueued (w : World) (visit : AccountId × Bool) : Bool :=
  !visit.2 && (w.m_sessions.find? visit.1).any (· ∉ w.m_QueuedPlayer)

def step (s : Watched) : Event → Watched
  | .login a => { s with world := s.world.AddSession_ a, now := a.clock.now }
  | .visit c visit =>
    { world := s.world.updateSession c visit
      now := c.now
      lastDisconnect := if endsUnqueued s.world visit then
        Function.update s.lastDisconnect visit.1 (some c.now) else s.lastDisconnect }
  | .setPlayerAmountLimit limit => { s with world := { s.world with m_playerLimit := limit } }

/-- **The clock does not go back.** -/
def InOrder (s : Watched) : Event → Prop
  | .login a => s.now ≤ a.clock.now
  | .visit c _ => s.now ≤ c.now
  | .setPlayerAmountLimit _ => True

def start (limit : ℕ) : Watched := ⟨.start limit, 0, fun _ => none⟩

/-- What a run knows: every time that is kept is past, and no later than the account's last
disconnect. -/
structure Kept (s : Watched) : Prop where
  sound : Sound s.world
  known : ∀ id time, s.world.m_disconnects.find? id = some time →
    time ≤ s.now ∧ ∃ d, s.lastDisconnect id = some d ∧ time ≤ d

theorem Kept.past {s : Watched} (h : Kept s) {now : ℕ} (hnow : s.now ≤ now) :
    s.world.Past now := by
  intro e he
  exact ((h.known e.1 e.2 (OrderedMap.mem_entries.mp he)).1).trans hnow

theorem kept_start (limit : ℕ) : Kept (start limit) where
  sound := sound_start limit
  known := fun id time h => by cases h

/-- A turn of the loop keeps the time at which a session ended that was not queued. -/
theorem disconnects_updateSession {w : World} (h : Sound w) (c : Clock) (visit : AccountId × Bool)
    {id : AccountId} {time : ℕ}
    (hfind : (w.updateSession c visit).m_disconnects.find? id = some time) :
    w.m_disconnects.find? id = some time ∨
      endsUnqueued w visit = true ∧ id = visit.1 ∧ time = c.now := by
  unfold updateSession at hfind
  cases hsess : w.m_sessions.find? visit.1 with
  | none =>
    rw [hsess] at hfind
    exact .inl hfind
  | some sess =>
    rw [hsess] at hfind
    dsimp only at hfind
    split at hfind
    · exact .inl hfind
    · rename_i hends
      have hremoved := RemoveQueuedPlayer_spec h hsess
      have hqueued : (w.RemoveQueuedPlayer sess).2 = decide (sess ∈ w.m_QueuedPlayer) :=
        RemoveQueuedPlayer_snd
      have htimes : (w.RemoveQueuedPlayer sess).1.m_disconnects = w.m_disconnects :=
        congrArg (fun r => r.2.2) registered_RemoveQueuedPlayer
      generalize hr : w.RemoveQueuedPlayer sess = r at hremoved hqueued htimes
      replace hfind : (r.1.noteDisconnect c sess r.2).m_disconnects.find? id = some time := by
        rw [endSession, hr] at hfind
        exact (congrArg (fun r => r.2.2.find? id) registered_RemoveQueuedPlayer).symm.trans hfind
      unfold noteDisconnect at hfind
      split at hfind
      · rename_i hnote
        have hout : sess ∉ w.m_QueuedPlayer := by
          rw [hqueued] at hnote
          exact of_decide_eq_false hnote.1
        obtain ⟨b, htag⟩ := h.listed.mapped _ _ hsess
        rw [← hremoved.tag sess hout] at htag
        obtain ⟨s, hs, haccount, -⟩ := tag_eq_some.mp htag
        rw [hs] at hfind
        replace hfind := (OrderedMap.find?_set _ _ _ id).symm.trans hfind
        rw [haccount, htimes] at hfind
        split at hfind
        · rename_i hid
          refine .inr ⟨?_, hid, (Option.some.inj hfind).symm⟩
          rw [endsUnqueued, hsess, Bool.eq_false_iff.mpr hends]
          exact decide_eq_true hout
        · exact .inl hfind
      · rw [htimes] at hfind
        exact .inl hfind

theorem Kept.step {s : Watched} (h : Kept s) (e : Event) (hclock : InOrder s e) :
    Kept (s.step e) := by
  cases e with
  | login a =>
    refine ⟨h.sound.addSession a, fun id time hfind => ?_⟩
    change (s.world.AddSession_ a).m_disconnects.find? id = some time at hfind
    rw [disconnects_AddSession_ (h.past hclock)] at hfind
    obtain ⟨hle, hlast⟩ := h.known id time hfind
    exact ⟨hle.trans hclock, hlast⟩
  | visit c visit =>
    refine ⟨h.sound.updateSession c visit, fun id time hfind => ?_⟩
    rcases disconnects_updateSession h.sound c visit hfind with hfind | ⟨hends, rfl, rfl⟩
    · obtain ⟨hle, d, hd, hdle⟩ := h.known id time hfind
      refine ⟨hle.trans hclock, ?_⟩
      dsimp only [Watched.step]
      split
      · by_cases hid : id = visit.1
        · rw [hid, Function.update_self]
          exact ⟨_, rfl, hle.trans hclock⟩
        · rw [Function.update_of_ne hid]
          exact ⟨d, hd, hdle⟩
      · exact ⟨d, hd, hdle⟩
    · refine ⟨le_rfl, c.now, ?_, le_rfl⟩
      dsimp only [Watched.step]
      rw [if_pos hends, Function.update_self]
  | setPlayerAmountLimit limit => exact ⟨h.sound.congr rfl (fun _ => rfl) rfl rfl, h.known⟩

/-! ## Who passes the queue -/

/-- **A login is treated right**: when the others are as many as the limit, a player is let straight
in only if his last disconnect is not over; and no time that is over stays for the next login. -/
structure BypassRight (s : Watched) (a : Arrival) : Prop where
  recent : IsPlayerAccount a.security = true → 0 < s.world.m_playerLimit →
    s.world.m_playerLimit ≤ s.world.others a → s.world.LetIn a →
      ∃ d, s.lastDisconnect a.accountId = some d ∧ a.clock.now < d + a.clock.tolerance
  forgotten : s.world.LooksUp a →
    ∀ e ∈ (s.world.AddSession_ a).m_disconnects.entries, a.clock.now < e.2 + a.clock.tolerance

theorem Kept.right_iff {s : Watched} (h : Kept s) {a : Arrival} (hclock : s.now ≤ a.clock.now) :
    BypassRight s a ↔ (s.world.LooksUp a →
      ∀ e ∈ s.world.m_disconnects.entries, a.clock.now < e.2 + a.clock.tolerance) := by
  have hpast := h.past hclock
  rw [← disconnects_AddSession_ hpast]
  refine ⟨fun hright => hright.forgotten, fun hfresh => ⟨?_, hfresh⟩⟩
  intro hplayer hlimit hfull hin
  have hlooks : s.world.LooksUp a := ⟨hin.1, hplayer, hlimit, hfull.trans (Nat.le_add_right _ _)⟩
  obtain ⟨e, he, hid⟩ := exists_of_letIn hpast hlooks hin
  obtain ⟨-, d, hd, hle⟩ := h.known e.1 e.2 (OrderedMap.mem_entries.mp he)
  rw [hid] at hd
  rw [disconnects_AddSession_ hpast] at hfresh
  exact ⟨d, hd, (hfresh hlooks e he).trans_le (Nat.add_le_add_right hle _)⟩

theorem kept_run {limit : ℕ} {events : List Event}
    (h : Admissible step InOrder (start limit) events) : Kept (run step (start limit) events) :=
  run_invariant Kept (fun _ e hs he => hs.step e he) (kept_start limit) h

/-- **A login is treated right** just when, if it is weighed, no time is over by then. -/
theorem bypassRight_iff (limit : ℕ) {events : List Event} {a : Arrival}
    (h : Admissible step InOrder (start limit) (events ++ [.login a])) :
    BypassRight (run step (start limit) events) a ↔
      ((run step (start limit) events).world.LooksUp a →
        ∀ e ∈ (run step (start limit) events).world.m_disconnects.entries,
          a.clock.now < e.2 + a.clock.tolerance) := by
  obtain ⟨hevents, hclock, -⟩ := admissible_append.mp h
  exact (kept_run hevents).right_iff hclock

/-- An account logs on, its session ends, and another one takes its place: one session is allowed,
and ten seconds are tolerated. -/
def placeTaken : List Event :=
  [.login ⟨7, 1, 0, false, ⟨10, 0⟩⟩, .visit ⟨10, 1⟩ (1, false), .login ⟨8, 2, 0, false, ⟨10, 2⟩⟩]

/-- The account comes back. -/
def comeBack (now : ℕ) : Arrival := ⟨9, 1, 0, false, ⟨10, now⟩⟩

/-- After four seconds it passes the queue by right. -/
theorem bypassRight_comeBack_early :
    BypassRight (run step (start 1) placeTaken) (comeBack 5) := by
  have hclock : Admissible step InOrder (start 1) (placeTaken ++ [.login (comeBack 5)]) :=
    ⟨Nat.le_refl 0, Nat.zero_le 1, Nat.le_succ 1, (by decide : 2 ≤ 5), trivial⟩
  exact (bypassRight_iff 1 hclock).mpr fun _ => by decide +kernel

/-- After a quarter of an hour it passes the queue, too. -/
theorem not_bypassRight_comeBack_late :
    ¬ BypassRight (run step (start 1) placeTaken) (comeBack 1000) := by
  intro h
  obtain ⟨d, hd, hlt⟩ := h.recent rfl Nat.one_pos (by decide +kernel) ⟨rfl, by decide +kernel⟩
  obtain rfl : 1 = d := Option.some.inj hd
  exact absurd hlt (by decide)

/-! ## The turns of the world -/

/-- A call of `UpdateSessions`, with the logins that wait and what comes of each visit; or a new
limit. -/
inductive Turn where
  | updateSessions (arrivals : List Arrival) (c : Clock) (visits : List (AccountId × Bool))
  | setPlayerAmountLimit (limit : ℕ)

namespace Turn

def events : Turn → List Event
  | .updateSessions arrivals c visits => arrivals.map .login ++ visits.map (.visit c)
  | .setPlayerAmountLimit limit => [.setPlayerAmountLimit limit]

/-- What the clock shows at each login and each visit. -/
def times : Turn → List ℕ
  | .updateSessions arrivals c visits => arrivals.map (·.clock.now) ++ visits.map fun _ => c.now
  | .setPlayerAmountLimit _ => []

/-- The world after the turn. -/
def apply (w : World) : Turn → World
  | .updateSessions arrivals c visits => w.UpdateSessions arrivals c visits
  | .setPlayerAmountLimit limit => { w with m_playerLimit := limit }

end Turn

/-- What the clock shows, where an event asks for it. -/
def time? : Event → Option ℕ
  | .login a => some a.clock.now
  | .visit c _ => some c.now
  | .setPlayerAmountLimit _ => none

theorem filterMap_login (arrivals : List Arrival) :
    (arrivals.map Event.login).filterMap time? = arrivals.map (·.clock.now) := by
  rw [List.filterMap_map]
  exact congrFun List.filterMap_eq_map' arrivals

theorem filterMap_events (turn : Turn) : turn.events.filterMap time? = turn.times := by
  cases turn with
  | updateSessions arrivals c visits =>
    rw [Turn.events, Turn.times, List.filterMap_append, filterMap_login, List.filterMap_map]
    exact congrArg _ (congrFun List.filterMap_eq_map' visits)
  | setPlayerAmountLimit limit => rfl

/-- Events are in order when the clock, read at one after the other, does not go back. -/
theorem admissible_of_times {s : Watched} {events : List Event}
    (h : (s.now :: events.filterMap time?).Pairwise (· ≤ ·)) :
    Admissible step InOrder s events := by
  induction events generalizing s with
  | nil => trivial
  | cons e rest ih =>
    cases e with
    | login a => exact ⟨List.rel_of_pairwise_cons h List.mem_cons_self, ih h.of_cons⟩
    | visit c visit => exact ⟨List.rel_of_pairwise_cons h List.mem_cons_self, ih h.of_cons⟩
    | setPlayerAmountLimit limit => exact ⟨trivial, ih h⟩

theorem world_run_logins (s : Watched) (arrivals : List Arrival) :
    (run step s (arrivals.map .login)).world = arrivals.foldl AddSession_ s.world := by
  induction arrivals generalizing s with
  | nil => rfl
  | cons a rest ih => exact ih (s.step (.login a))

theorem world_run_events (s : Watched) (turn : Turn) :
    (run step s turn.events).world = turn.apply s.world := by
  cases turn with
  | updateSessions arrivals c visits =>
    rw [Turn.events, run_append, Turn.apply, UpdateSessions, ← world_run_logins s]
    generalize run step s (arrivals.map .login) = s
    induction visits generalizing s with
    | nil => rfl
    | cons visit rest ih => exact ih (s.step (.visit c visit))
  | setPlayerAmountLimit limit => rfl

theorem world_run_turns (s : Watched) (turns : List Turn) :
    (run step s (turns.flatMap Turn.events)).world = turns.foldl Turn.apply s.world := by
  induction turns generalizing s with
  | nil => rfl
  | cons turn rest ih =>
    rw [List.flatMap_cons, run_append, ih, world_run_events]
    rfl

/-- The watched world in the middle of a call: after the turns, and the logins `before`. -/
def midTurn (limit : ℕ) (turns : List Turn) (before : List Arrival) : Watched :=
  run step (start limit) (turns.flatMap Turn.events ++ before.map .login)

theorem times_midTurn (turns : List Turn) (before : List Arrival) (a : Arrival) :
    ((turns.flatMap Turn.events ++ before.map Event.login) ++ [Event.login a]).filterMap time? =
      turns.flatMap Turn.times ++ (before ++ [a]).map (·.clock.now) := by
  have hlast : before.map Event.login ++ [Event.login a] = (before ++ [a]).map .login := by
    rw [List.map_append, List.map_singleton]
  rw [List.append_assoc, hlast, List.filterMap_append, filterMap_login, List.filterMap_flatMap]
  simp only [filterMap_events]

/-- **The logins of `UpdateSessions`.**  After calls of it whose clock does not go back, a login of
the next call meets the world that these calls and the logins before it leave; it is treated right
just when, if it is weighed there, no time is over by then. -/
theorem bypassRight_turns (limit : ℕ) {turns : List Turn} {before : List Arrival} {a : Arrival}
    (hclock : (turns.flatMap Turn.times ++ (before ++ [a]).map (·.clock.now)).Pairwise (· ≤ ·)) :
    (midTurn limit turns before).world =
        before.foldl AddSession_ (turns.foldl Turn.apply (.start limit)) ∧
      (BypassRight (midTurn limit turns before) a ↔
        ((midTurn limit turns before).world.LooksUp a →
          ∀ e ∈ (midTurn limit turns before).world.m_disconnects.entries,
            a.clock.now < e.2 + a.clock.tolerance)) := by
  have horder : Admissible step InOrder (start limit)
      ((turns.flatMap Turn.events ++ before.map .login) ++ [.login a]) := by
    apply admissible_of_times
    rw [times_midTurn]
    exact List.pairwise_cons.mpr ⟨fun _ _ => Nat.zero_le _, hclock⟩
  obtain ⟨hevents, hnow, -⟩ := admissible_append.mp horder
  refine ⟨?_, (kept_run hevents).right_iff hnow⟩
  rw [midTurn, run_append, world_run_logins, world_run_turns]
  rfl

/-- An account logs on and its session ends, in one call of `UpdateSessions`; in the next one
another account takes its place. -/
def placeTakenTurns : List Turn :=
  [.updateSessions [⟨7, 1, 0, false, ⟨10, 0⟩⟩] ⟨10, 1⟩ [(1, false)]]

/-- In the call after that the account comes back behind the other, and passes the queue by
right. -/
theorem bypassRight_turns_comeBack :
    BypassRight (midTurn 1 placeTakenTurns [⟨8, 2, 0, false, ⟨10, 2⟩⟩]) (comeBack 5) :=
  (bypassRight_turns 1 (by decide)).2.mpr fun _ => by decide +kernel

end Watched

end TeraCore.LoginQueue
