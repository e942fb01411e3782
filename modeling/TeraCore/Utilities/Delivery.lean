import Mathlib.Data.List.Nodup
import Mathlib.Data.List.Perm.Subperm
import TeraCore.Utilities.EventProcessor

/-!
# Event processors: delivery

An event that was added is answered once: it is executed when it is due, or aborted.

What an event adds while `KillAllEvents` aborts it finds its place in the map by the time it is due
at.  In front of the iterator nobody comes by any more; if the events are killed by force, the map
is cleared in the end, and what was added there is dropped.

## Main results

* `Ledger.addEvents`, `Ledger.execute`, `Ledger.abort`: what keeps the ledger
* `delivered_after`: the events are delivered, after every run
-/

namespace TeraCore.Utilities

open Commons

def Call.executed? : Call → Option ℕ
  | execute a _ _ => some a.number
  | _ => none

def Call.aborted? : Call → Option ℕ
  | abort a _ _ => some a.number
  | _ => none

def Call.deleted? : Call → Option ℕ
  | delete a => some a.event
  | _ => none

def Call.event : Call → ℕ
  | execute a _ _ => a.event
  | abort a _ _ => a.event
  | delete a => a.event

/-- Nothing is executed too early. -/
def Call.Punctual : Call → Prop
  | execute _ due e_time => due ≤ e_time
  | _ => True

/-- **What a call rules out**: an event that was aborted is not executed any more, and one that was
deleted is not called any more. -/
def Call.Settles (c c' : Call) : Prop :=
  (c.aborted?.isSome = true → c'.executed?.isSome = true → c'.event ≠ c.event) ∧
    (c.deleted?.isSome = true → c'.event ≠ c.event)

namespace EventProcessor

variable {p : EventProcessor} {a : Addition} {due e_time event n : ℕ}

def numbers (p : EventProcessor) : List ℕ := p.m_events.entries.map (·.2.number)

def events (p : EventProcessor) : List ℕ := p.m_events.entries.map (·.2.event)

def executed (p : EventProcessor) : List ℕ := p.calls.filterMap Call.executed?

def aborted (p : EventProcessor) : List ℕ := p.calls.filterMap Call.aborted?

def deleted (p : EventProcessor) : List ℕ := p.calls.filterMap Call.deleted?

/-- **The ledger**: each addition is queued, executed or aborted; executed only once, and then
neither queued nor aborted. -/
structure Ledger (p : EventProcessor) : Prop where
  numbers_nodup : p.numbers.Nodup
  events_nodup : p.events.Nodup
  executed_nodup : p.executed.Nodup
  numbers_lt : ∀ n ∈ p.numbers, n < p.additions
  executed_lt : ∀ n ∈ p.executed, n < p.additions
  aborted_lt : ∀ n ∈ p.aborted, n < p.additions
  not_queued : ∀ n ∈ p.executed, n ∉ p.numbers
  not_aborted : ∀ n ∈ p.executed, n ∉ p.aborted
  answered : ∀ n < p.additions, n ∈ p.numbers ∨ n ∈ p.executed ∨ n ∈ p.aborted
  punctual : ∀ c ∈ p.calls, c.Punctual
  flagged : ∀ c ∈ p.calls, c.aborted?.isSome = true → c.event ∈ p.to_Abort
  queued_flagged : ∀ entry ∈ p.m_events.entries, entry.2.number ∈ p.aborted →
    entry.2.event ∈ p.to_Abort
  settled : p.calls.Pairwise Call.Settles

/-! ## Additions -/

theorem numbers_addEvent : (p.addEvent event e_time).numbers.Perm (p.additions :: p.numbers) :=
  (p.m_events.perm_insert e_time _).map _

theorem events_addEvent : (p.addEvent event e_time).events.Perm (event :: p.events) :=
  (p.m_events.perm_insert e_time _).map _

theorem Ledger.addEvent (h : Ledger p) (hevent : event ∉ p.events) :
    Ledger (p.addEvent event e_time) := by
  have hmem : ∀ n, n ∈ (p.addEvent event e_time).numbers ↔ n = p.additions ∨ n ∈ p.numbers :=
    fun n => by rw [numbers_addEvent.mem_iff, List.mem_cons]
  have hnew : p.additions ∉ p.numbers := fun hn => Nat.lt_irrefl _ (h.numbers_lt _ hn)
  exact {
    numbers_nodup := numbers_addEvent.nodup_iff.mpr (List.nodup_cons.mpr ⟨hnew, h.numbers_nodup⟩)
    events_nodup := events_addEvent.nodup_iff.mpr (List.nodup_cons.mpr ⟨hevent, h.events_nodup⟩)
    executed_nodup := h.executed_nodup
    numbers_lt := fun n hn => by
      rcases (hmem n).mp hn with rfl | hn
      · exact Nat.lt_succ_self _
      · exact Nat.lt_succ_of_lt (h.numbers_lt n hn)
    executed_lt := fun n hn => Nat.lt_succ_of_lt (h.executed_lt n hn)
    aborted_lt := fun n hn => Nat.lt_succ_of_lt (h.aborted_lt n hn)
    not_queued := fun n hn hqueued => by
      rcases (hmem n).mp hqueued with rfl | hqueued
      · exact Nat.lt_irrefl _ (h.executed_lt _ hn)
      · exact h.not_queued n hn hqueued
    not_aborted := h.not_aborted
    answered := fun n hn => by
      rcases Nat.lt_succ_iff_lt_or_eq.mp hn with hlt | rfl
      · exact (h.answered n hlt).imp_left fun hqueued => (hmem n).mpr (.inr hqueued)
      · exact .inl ((hmem _).mpr (.inl rfl))
    punctual := h.punctual
    flagged := h.flagged
    queued_flagged := fun entry hentry haborted => by
      rcases p.m_events.mem_insert e_time ⟨event, p.additions⟩ |>.mp hentry with rfl | hentry
      · exact absurd (h.aborted_lt _ haborted) (Nat.lt_irrefl _)
      · exact h.queued_flagged entry hentry haborted
    settled := h.settled }

/-- **Events that can be added**: none is queued, deleted, or added twice, and each is due now or
later. -/
def Adds (p : EventProcessor) (added : List (ℕ × ℕ)) : Prop :=
  (added.map (·.1)).Nodup ∧ ∀ e ∈ added, p.m_time ≤ e.2 ∧ e.1 ∉ p.events ∧ e.1 ∉ p.deleted

theorem Ledger.addEvents (h : Ledger p) {added : List (ℕ × ℕ)}
    (hnodup : (added.map (·.1)).Nodup) (hnew : ∀ e ∈ added, e.1 ∉ p.events) :
    Ledger (p.addEvents added) := by
  induction added generalizing p with
  | nil => exact h
  | cons e added ih =>
    rw [List.map_cons, List.nodup_cons] at hnodup
    rw [List.forall_mem_cons] at hnew
    refine ih (h.addEvent hnew.1) hnodup.2 fun e' he' hmem => ?_
    rcases List.mem_cons.mp (events_addEvent.mem_iff.mp hmem) with heq | hmem
    · exact hnodup.1 (heq ▸ List.mem_map_of_mem he')
    · exact hnew.2 e' he' hmem

/-! ## Calls -/

theorem executed_call (c : Call) : (p.call c).executed = p.executed ++ c.executed?.toList := by
  cases c <;> simp [executed, call, Call.executed?]

theorem aborted_call (c : Call) : (p.call c).aborted = p.aborted ++ c.aborted?.toList := by
  cases c <;> simp [aborted, call, Call.aborted?]

theorem deleted_call (c : Call) : (p.call c).deleted = p.deleted ++ c.deleted?.toList := by
  cases c <;> simp [deleted, call, Call.deleted?]

theorem settled_call {c : Call} (h : p.calls.Pairwise Call.Settles)
    (hc : ∀ c' ∈ p.calls, c'.Settles c) : (p.call c).calls.Pairwise Call.Settles := by
  refine List.pairwise_append.mpr ⟨h, List.pairwise_singleton _ _, fun c' hc' c'' hc'' => ?_⟩
  rw [List.mem_singleton.mp hc'']
  exact hc c' hc'

theorem not_deleted_of (c' : Call) {c : Call} (hlive : c'.event ∉ p.deleted) (hc : c ∈ p.calls)
    (hdeleted : c.deleted?.isSome = true) : c'.event ≠ c.event := by
  intro heq
  cases c with
  | execute a due t => cases hdeleted
  | abort a due t => cases hdeleted
  | delete a => exact hlive (heq ▸ List.mem_filterMap.mpr ⟨.delete a, hc, rfl⟩)

variable {rest front later : List (ℕ × Addition)} {q : EventProcessor} {t : ℕ} {answer : Answer}
  {force : Bool}

theorem Ledger.first (h : Ledger p) (hentries : p.m_events.entries = (due, a) :: rest) :
    p.numbers = a.number :: (p.take due).numbers ∧ (p.take due).numbers.Nodup ∧
      a.number ∉ (p.take due).numbers ∧ (p.take due).events.Nodup ∧
      a.event ∉ (p.take due).events ∧
      ∀ entry ∈ (p.take due).m_events.entries, entry ∈ p.m_events.entries := by
  have hrest : (p.take due).m_events.entries = rest := by simp [take, hentries]
  have hnumbers : p.numbers = a.number :: (p.take due).numbers := by
    simp [numbers, hentries, hrest]
  have hevents : p.events = a.event :: (p.take due).events := by
    simp [events, hentries, hrest]
  have hnodup := h.numbers_nodup
  have hnodup' := h.events_nodup
  rw [hnumbers, List.nodup_cons] at hnodup
  rw [hevents, List.nodup_cons] at hnodup'
  refine ⟨hnumbers, hnodup.2, hnodup.1, hnodup'.2, hnodup'.1, fun entry hentry => ?_⟩
  rw [hrest] at hentry
  exact hentries ▸ List.mem_cons_of_mem _ hentry

theorem Ledger.execute (h : Ledger p)
    (hentries : p.m_events.entries = (due, a) :: rest) (hflag : a.event ∉ p.to_Abort)
    (hlive : a.event ∉ p.deleted) (hdue : due ≤ p.m_time) :
    Ledger ((p.take due).call (.execute a due p.m_time)) := by
  obtain ⟨hnumbers, hnodup, hnot, hevents, -, hsub⟩ := h.first hentries
  have hqueued : a.number ∈ p.numbers := hnumbers ▸ List.mem_cons_self
  have hmem : ∀ n ∈ (p.take due).numbers, n ∈ p.numbers :=
    fun n hn => hnumbers ▸ List.mem_cons_of_mem _ hn
  have hexecuted : ((p.take due).call (.execute a due p.m_time)).executed =
      p.executed ++ [a.number] := executed_call _
  have haborted : ((p.take due).call (.execute a due p.m_time)).aborted = p.aborted :=
    (aborted_call _).trans (List.append_nil _)
  have hunaborted : a.number ∉ p.aborted := fun hn =>
    hflag (h.queued_flagged (due, a) (hentries ▸ List.mem_cons_self) hn)
  exact {
    numbers_nodup := hnodup
    events_nodup := hevents
    executed_nodup := by
      rw [hexecuted, List.nodup_append]
      refine ⟨h.executed_nodup, List.nodup_singleton _, fun n hn m hm heq => ?_⟩
      rw [heq, List.mem_singleton.mp hm] at hn
      exact h.not_queued _ hn hqueued
    numbers_lt := fun n hn => h.numbers_lt n (hmem n hn)
    executed_lt := fun n hn => by
      rw [hexecuted, List.mem_append, List.mem_singleton] at hn
      rcases hn with hn | rfl
      · exact h.executed_lt n hn
      · exact h.numbers_lt _ hqueued
    aborted_lt := fun n hn => h.aborted_lt n (haborted ▸ hn)
    not_queued := fun n hn => by
      rw [hexecuted, List.mem_append, List.mem_singleton] at hn
      rcases hn with hn | rfl
      · exact fun hq => h.not_queued n hn (hmem n hq)
      · exact hnot
    not_aborted := fun n hn => by
      rw [hexecuted, List.mem_append, List.mem_singleton] at hn
      rw [haborted]
      rcases hn with hn | rfl
      · exact h.not_aborted n hn
      · exact hunaborted
    answered := fun n hn => by
      rw [hexecuted, haborted, List.mem_append, List.mem_singleton]
      rcases h.answered n hn with hq | he | ha
      · rw [hnumbers, List.mem_cons] at hq
        rcases hq with rfl | hq
        · exact .inr (.inl (.inr rfl))
        · exact .inl hq
      · exact .inr (.inl (.inl he))
      · exact .inr (.inr ha)
    punctual := fun c hc => by
      rcases List.mem_append.mp hc with hc | hc
      · exact h.punctual c hc
      · rw [List.mem_singleton.mp hc]
        exact hdue
    flagged := fun c hc habort => by
      rcases List.mem_append.mp hc with hc | hc
      · exact h.flagged c hc habort
      · rw [List.mem_singleton.mp hc] at habort
        cases habort
    queued_flagged := fun entry hentry hn =>
      h.queued_flagged entry (hsub entry hentry) (haborted ▸ hn)
    settled := by
      refine settled_call h.settled fun c hc => ⟨fun habort _ heq => ?_, ?_⟩
      · have hmem := h.flagged c hc habort
        rw [← heq] at hmem
        exact hflag hmem
      · exact not_deleted_of (.execute a due p.m_time) hlive hc }

/-- **An event is aborted**, by an update or by `KillAllEvents`: it is queued before, and it is
marked afterwards; nothing else leaves the map. -/
theorem Ledger.abort (h : Ledger p) (hentry : (due, a) ∈ p.m_events.entries)
    (hlive : a.event ∉ p.deleted) (hflag : a.event ∈ q.to_Abort)
    (hflags : ∀ e ∈ p.to_Abort, e ∈ q.to_Abort) (hadditions : q.additions = p.additions)
    (hcalls : q.calls = p.calls) (hsub : q.m_events.entries.Sublist p.m_events.entries)
    (hkept : ∀ n ∈ p.numbers, n ∈ q.numbers ∨ n = a.number) :
    Ledger (q.call (.abort a due e_time)) := by
  have hnumber : a.number ∈ p.numbers := List.mem_map_of_mem hentry
  have hnumbers : q.numbers.Sublist p.numbers := hsub.map _
  have hexecuted : (q.call (.abort a due e_time)).executed = p.executed := by
    rw [executed_call, executed, hcalls]
    exact List.append_nil _
  have haborted : (q.call (.abort a due e_time)).aborted = p.aborted ++ [a.number] := by
    rw [aborted_call, aborted, hcalls]
    rfl
  have hcall : ∀ c ∈ (q.call (.abort a due e_time)).calls,
      c ∈ p.calls ∨ c = .abort a due e_time := by
    intro c hc
    rw [← hcalls, ← List.mem_singleton]
    exact List.mem_append.mp hc
  exact {
    numbers_nodup := hnumbers.nodup h.numbers_nodup
    events_nodup := (hsub.map _).nodup h.events_nodup
    executed_nodup := hexecuted ▸ h.executed_nodup
    numbers_lt := fun n hn => hadditions ▸ h.numbers_lt n (hnumbers.subset hn)
    executed_lt := fun n hn => hadditions ▸ h.executed_lt n (hexecuted ▸ hn)
    aborted_lt := fun n hn => by
      rw [haborted, List.mem_append, List.mem_singleton] at hn
      rcases hn with hn | rfl
      · exact hadditions ▸ h.aborted_lt n hn
      · exact hadditions ▸ h.numbers_lt _ hnumber
    not_queued := fun n hn hq => h.not_queued n (hexecuted ▸ hn) (hnumbers.subset hq)
    not_aborted := fun n hn => by
      rw [hexecuted] at hn
      rw [haborted, List.mem_append, List.mem_singleton, not_or]
      exact ⟨h.not_aborted n hn, fun heq => h.not_queued n hn (heq ▸ hnumber)⟩
    answered := fun n hn => by
      rw [hexecuted, haborted, List.mem_append, List.mem_singleton]
      rcases h.answered n (hadditions ▸ hn) with hq | he | ha
      · rcases hkept n hq with hq | heq
        · exact .inl hq
        · exact .inr (.inr (.inr heq))
      · exact .inr (.inl he)
      · exact .inr (.inr (.inl ha))
    punctual := fun c hc => by
      rcases hcall c hc with hc | rfl
      · exact h.punctual c hc
      · trivial
    flagged := fun c hc habort => by
      rcases hcall c hc with hc | rfl
      · exact hflags _ (h.flagged c hc habort)
      · exact hflag
    queued_flagged := fun entry hq hn => by
      rw [haborted, List.mem_append, List.mem_singleton] at hn
      have hentry' : entry ∈ p.m_events.entries := hsub.subset hq
      rcases hn with hn | hn
      · exact hflags _ (h.queued_flagged entry hentry' hn)
      · have hsame : entry = (due, a) :=
          List.inj_on_of_nodup_map h.numbers_nodup hentry' hentry hn
        rw [hsame]
        exact hflag
    settled := by
      refine settled_call (hcalls ▸ h.settled) fun c hc => ⟨fun _ hexecuted => ?_, ?_⟩
      · cases hexecuted
      · exact not_deleted_of (.abort a due e_time) hlive (hcalls ▸ hc) }

theorem Ledger.delete (h : Ledger p) (hlive : a.event ∉ p.deleted) :
    Ledger (p.call (.delete a)) := by
  have hexecuted : (p.call (.delete a)).executed = p.executed :=
    (executed_call _).trans (List.append_nil _)
  have haborted : (p.call (.delete a)).aborted = p.aborted :=
    (aborted_call _).trans (List.append_nil _)
  have hcall : ∀ c ∈ (p.call (.delete a)).calls, c ∈ p.calls ∨ c = .delete a := by
    intro c hc
    rw [← List.mem_singleton]
    exact List.mem_append.mp hc
  exact {
    numbers_nodup := h.numbers_nodup
    events_nodup := h.events_nodup
    executed_nodup := hexecuted ▸ h.executed_nodup
    numbers_lt := h.numbers_lt
    executed_lt := fun n hn => h.executed_lt n (hexecuted ▸ hn)
    aborted_lt := fun n hn => h.aborted_lt n (haborted ▸ hn)
    not_queued := fun n hn => h.not_queued n (hexecuted ▸ hn)
    not_aborted := fun n hn => by
      rw [haborted]
      exact h.not_aborted n (hexecuted ▸ hn)
    answered := fun n hn => by
      rw [hexecuted, haborted]
      exact h.answered n hn
    punctual := fun c hc => by
      rcases hcall c hc with hc | rfl
      · exact h.punctual c hc
      · trivial
    flagged := fun c hc habort => by
      rcases hcall c hc with hc | rfl
      · exact h.flagged c hc habort
      · cases habort
    queued_flagged := fun entry hentry hn => h.queued_flagged entry hentry (haborted ▸ hn)
    settled := by
      refine settled_call h.settled fun c hc => ⟨fun _ hexecuted => ?_, ?_⟩
      · cases hexecuted
      · exact not_deleted_of (.delete a) hlive hc }

/-- **Additions that were aborted** leave the map. -/
theorem Ledger.erase (h : Ledger p) (hsub : q.m_events.entries.Sublist p.m_events.entries)
    (hkept : ∀ m ∈ p.numbers, m ∈ q.numbers ∨ m ∈ p.aborted)
    (hadditions : q.additions = p.additions) (hcalls : q.calls = p.calls)
    (hflags : q.to_Abort = p.to_Abort) : Ledger q := by
  have hnumbers : q.numbers.Sublist p.numbers := hsub.map _
  have hexecuted : q.executed = p.executed := by rw [executed, hcalls, executed]
  have haborted : q.aborted = p.aborted := by
    rw [EventProcessor.aborted, hcalls, EventProcessor.aborted]
  exact {
    numbers_nodup := hnumbers.nodup h.numbers_nodup
    events_nodup := (hsub.map _).nodup h.events_nodup
    executed_nodup := hexecuted ▸ h.executed_nodup
    numbers_lt := fun m hm => hadditions ▸ h.numbers_lt m (hnumbers.subset hm)
    executed_lt := fun m hm => hadditions ▸ h.executed_lt m (hexecuted ▸ hm)
    aborted_lt := fun m hm => hadditions ▸ h.aborted_lt m (haborted ▸ hm)
    not_queued := fun m hm hq => h.not_queued m (hexecuted ▸ hm) (hnumbers.subset hq)
    not_aborted := fun m hm => by
      rw [haborted]
      exact h.not_aborted m (hexecuted ▸ hm)
    answered := fun m hm => by
      rw [hexecuted, haborted]
      rcases h.answered m (hadditions ▸ hm) with hq | hanswered
      · exact (hkept m hq).imp_right .inr
      · exact .inr hanswered
    punctual := hcalls ▸ h.punctual
    flagged := fun c hc habort => hflags ▸ h.flagged c (hcalls ▸ hc) habort
    queued_flagged := fun entry hentry hn =>
      hflags ▸ h.queued_flagged entry (hsub.subset hentry) (haborted ▸ hn)
    settled := hcalls ▸ h.settled }

theorem Ledger.congr (h : Ledger p) (hevents : q.m_events = p.m_events)
    (hadditions : q.additions = p.additions) (hcalls : q.calls = p.calls)
    (hflags : q.to_Abort = p.to_Abort) : Ledger q := by
  obtain ⟨_, _, _, _, _, _, _, _⟩ := q
  cases hevents
  cases hadditions
  cases hcalls
  cases hflags
  exact { h with }

/-! ## What additions leave alone -/

variable {added : List (ℕ × ℕ)}

theorem addEvents_frame {α : Type} (g : EventProcessor → α)
    (h : ∀ p event e_time, g (addEvent p event e_time) = g p) : g (p.addEvents added) = g p := by
  induction added generalizing p with
  | nil => rfl
  | cons e added ih => exact ih.trans (h p e.1 e.2)

@[simp] theorem mode_addEvents : (p.addEvents added).mode = p.mode :=
  addEvents_frame (fun p => p.mode) fun _ _ _ => rfl

@[simp] theorem m_time_addEvents : (p.addEvents added).m_time = p.m_time :=
  addEvents_frame (fun p => p.m_time) fun _ _ _ => rfl

@[simp] theorem calls_addEvents : (p.addEvents added).calls = p.calls :=
  addEvents_frame (fun p => p.calls) fun _ _ _ => rfl

@[simp] theorem taken_addEvents : (p.addEvents added).taken = p.taken :=
  addEvents_frame (fun p => p.taken) fun _ _ _ => rfl

@[simp] theorem deleted_addEvents : (p.addEvents added).deleted = p.deleted := by
  rw [deleted, calls_addEvents, deleted]

@[simp] theorem aborted_addEvents : (p.addEvents added).aborted = p.aborted := by
  rw [aborted, calls_addEvents, aborted]

theorem mem_addEvents {entry : ℕ × Addition} (h : entry ∈ (p.addEvents added).m_events.entries) :
    entry ∈ p.m_events.entries ∨ ∃ e ∈ added, entry.1 = e.2 ∧ entry.2.event = e.1 := by
  induction added generalizing p with
  | nil => exact .inl h
  | cons e added ih =>
    rcases ih h with h | ⟨e', he', hentry⟩
    · rcases (p.m_events.mem_insert e.2 ⟨e.1, p.additions⟩).mp h with rfl | h
      · exact .inr ⟨e, List.mem_cons_self, rfl, rfl⟩
      · exact .inl h
    · exact .inr ⟨e', List.mem_cons_of_mem e he', hentry⟩

theorem addEvents_behind {back : List (ℕ × Addition)}
    (hentries : p.m_events.entries = front ++ back)
    (hplace : ∀ e ∈ added, ∃ next ∈ back.head?, next.1 ≤ e.2) :
    ∃ back', (p.addEvents added).m_events.entries = front ++ back' ∧ back'.head? = back.head? := by
  induction added generalizing p back with
  | nil => exact ⟨back, hentries, rfl⟩
  | cons e added ih =>
    rw [List.forall_mem_cons] at hplace
    obtain ⟨next, hnext, hle⟩ := hplace.1
    obtain ⟨rest, rfl⟩ := List.head?_eq_some_iff.mp hnext
    -- the map is sorted, so that all in front of the entry is due no later
    have hsorted := p.m_events.sorted
    rw [hentries, List.pairwise_append] at hsorted
    have hfront : ∀ x ∈ front ++ [next], x.1 ≤ e.2 := by
      intro x hx
      rcases List.mem_append.mp hx with hx | hx
      · exact (hsorted.2.2 x hx next List.mem_cons_self).trans hle
      · rwa [List.mem_singleton.mp hx]
    have hinsert : (p.addEvent e.1 e.2).m_events.entries =
        front ++ next :: Multimap.insertEntry e.2 ⟨e.1, p.additions⟩ rest := by
      have hsplit : front ++ next :: rest = front ++ [next] ++ rest := by simp
      rw [addEvent, Multimap.entries_insert, hentries, hsplit,
        Multimap.insertEntry_append_of_le _ _ hfront]
      simp
    obtain ⟨back', hback, hhead⟩ := ih hinsert hplace.2
    exact ⟨back', hback, hhead⟩

/-! ## The loops -/

/-- The events are not deleted. -/
def Alive (p : EventProcessor) (entries : List (ℕ × Addition)) : Prop :=
  ∀ entry ∈ entries, entry.2.event ∉ p.deleted

/-- **The invariant.** In an update, what was taken is due no later than what is queued.
In front of the iterator of `KillAllEvents` everything is aborted, and behind it nothing is deleted;
by force, what is in front is deleted, but still there. -/
structure Sound (p : EventProcessor) : Prop where
  ledger : Ledger p
  ordered : p.taken.Pairwise (· ≤ ·)
  alive : (∀ i, p.mode ≠ .killing true i) → p.Alive p.m_events.entries
  updating : ∀ p_time, p.mode = .updating p_time →
    ∀ d ∈ p.taken, d ≤ p.m_time ∧ ∀ entry ∈ p.m_events.entries, d ≤ entry.1
  killing : ∀ force i, p.mode = .killing force i → ∃ front back,
    p.m_events.entries = front ++ back ∧ back.head?.map (·.2.number) = i ∧
      (∀ entry ∈ front, entry.2.number ∈ p.aborted) ∧ p.Alive back

theorem sound_new : Sound new where
  ledger := by constructor <;> simp [new, numbers, events, executed, aborted, Multimap.empty]
  ordered := List.Pairwise.nil
  alive := fun _ entry hentry => absurd hentry List.not_mem_nil
  updating := fun _ hmode => by cases hmode
  killing := fun _ _ hmode => by cases hmode

/-- What a turn can rely on: the event at the front adds itself again only if it is executed, and is
not deleted then. -/
def LawfulTurn (p : EventProcessor) (answer : Answer) : Mode → Prop
  | .updating _ => ∀ entry ∈ p.m_events.entries.head?, entry.1 ≤ p.m_time →
    (p.take entry.1).Adds answer.added ∧
      (entry.2.event ∈ answer.added.map (·.1) →
        entry.2.event ∉ p.to_Abort ∧ answer.result = false)
  | .killing _ (some _) => p.Adds answer.added
  | .killing _ none | .idle => True

/-- **What a run can rely on**: events are added that can be. -/
def Lawful (p : EventProcessor) : Op → Prop
  | .addEvent event _ => event ∉ p.events ∧ event ∉ p.deleted
  | .update _ | .killAllEvents _ => True
  | .turn answer => p.LawfulTurn answer p.mode

def behind (p : EventProcessor) (n : ℕ) : List (ℕ × Addition) :=
  (p.m_events.entries.dropWhile fun entry => decide (entry.2.number ≠ n)).tail

def InPlaceTurn (p : EventProcessor) (answer : Answer) : Mode → Prop
  | .killing _ (some n) => ∀ e ∈ answer.added, ∃ next ∈ (p.behind n).head?, next.1 ≤ e.2
  | .killing _ none | .updating _ | .idle => True

/-- **Additions in place**: what an event adds while `KillAllEvents` aborts it is due no earlier
than the event that is next. -/
def InPlace (p : EventProcessor) : Op → Prop
  | .turn answer => p.InPlaceTurn answer p.mode
  | _ => True

theorem Sound.idle (h : Sound p) (halive : p.Alive p.m_events.entries) :
    Sound { p with mode := .idle } where
  ledger := h.ledger.congr rfl rfl rfl rfl
  ordered := h.ordered
  alive := fun _ => halive
  updating := fun _ hmode => by cases hmode
  killing := fun _ _ hmode => by cases hmode

/-- The events that are queued after some additions, of the sort that can be added. -/
theorem alive_addEvents (hadds : q.Adds added)
    (halive : ∀ entry ∈ p.m_events.entries, entry.2.event ∉ q.deleted) :
    ∀ entry ∈ (p.addEvents added).m_events.entries, entry.2.event ∉ q.deleted := by
  intro entry hentry
  rcases mem_addEvents hentry with hentry | ⟨e, he, -, hevent⟩
  · exact halive entry hentry
  · rw [hevent]
    exact (hadds.2 e he).2.2

theorem sound_answered (hmode : p.mode = .updating t)
    (h : Sound p) (hentries : p.m_events.entries = (due, a) :: rest)
    (hdue : due ≤ p.m_time) (hadds : (p.take due).Adds added) (hledger : Ledger q)
    (hq : q.m_events = (p.take due).m_events) (htaken : q.taken = (p.take due).taken)
    (hmode' : q.mode = p.mode) (htime : q.m_time = p.m_time) (hdeleted : q.deleted = p.deleted) :
    Sound (q.addEvents added) := by
  obtain ⟨-, -, -, -, -, hsub⟩ := h.ledger.first hentries
  have halive : p.Alive p.m_events.entries := h.alive (by simp [hmode])
  have hbefore : ∀ d ∈ p.taken, d ≤ due :=
    fun d hd => (h.updating t hmode d hd).2 (due, a) (hentries ▸ List.mem_cons_self)
  have hrest : ∀ entry ∈ (p.take due).m_events.entries, due ≤ entry.1 := by
    have hsorted := p.m_events.sorted
    rw [hentries, List.pairwise_cons] at hsorted
    intro entry hentry
    have htail : (p.take due).m_events.entries = rest := by simp [take, hentries]
    exact hsorted.1 entry (htail ▸ hentry)
  have hmem : ∀ d ∈ q.taken, d ∈ p.taken ∨ d = due := by
    intro d hd
    rw [htaken] at hd
    exact (List.mem_append.mp hd).imp_right List.mem_singleton.mp
  exact {
    ledger := by
      refine hledger.addEvents hadds.1 fun e he => ?_
      rw [events, hq]
      exact (hadds.2 e he).2.1
    ordered := by
      rw [taken_addEvents, htaken]
      refine List.pairwise_append.mpr
        ⟨h.ordered, List.pairwise_singleton _ _, fun d hd d' hd' => ?_⟩
      rw [List.mem_singleton.mp hd']
      exact hbefore d hd
    alive := fun _ entry hentry => by
      rw [deleted_addEvents, hdeleted]
      refine alive_addEvents (q := p.take due) hadds (fun entry hentry => ?_) entry hentry
      rw [hq] at hentry
      exact halive entry (hsub entry hentry)
    updating := fun _ _ d hd => by
      rw [taken_addEvents] at hd
      rw [m_time_addEvents, htime]
      have htimely : d ≤ p.m_time ∧ d ≤ due := by
        rcases hmem d hd with hd | rfl
        · exact ⟨(h.updating t hmode d hd).1, hbefore d hd⟩
        · exact ⟨hdue, Nat.le_refl _⟩
      refine ⟨htimely.1, fun entry hentry => ?_⟩
      rcases mem_addEvents hentry with hentry | ⟨e, he, hwhen, -⟩
      · rw [hq] at hentry
        exact htimely.2.trans (hrest entry hentry)
      · rw [hwhen]
        exact htimely.1.trans (hadds.2 e he).1
    killing := fun _ _ hkilling => by
      rw [mode_addEvents, hmode', hmode] at hkilling
      cases hkilling }

theorem Sound.delete (h : Sound p) (hmode : p.mode = .updating t)
    (hlive : a.event ∉ p.deleted) (hout : a.event ∉ p.events) : Sound (p.call (.delete a)) where
  ledger := h.ledger.delete hlive
  ordered := h.ordered
  alive := fun hkilling entry hentry => by
    rw [deleted_call]
    refine fun hmem => ?_
    rcases List.mem_append.mp hmem with hmem | hmem
    · exact h.alive hkilling entry hentry hmem
    · exact hout (List.mem_singleton.mp hmem ▸ List.mem_map_of_mem hentry)
  updating := h.updating
  killing := fun _ _ hkilling => by
    change p.mode = _ at hkilling
    rw [hmode] at hkilling
    cases hkilling

theorem not_mem_events_addEvents (hout : event ∉ p.events) (hnew : event ∉ added.map (·.1)) :
    event ∉ (p.addEvents added).events := by
  intro hmem
  obtain ⟨entry, hentry, rfl⟩ := List.mem_map.mp hmem
  rcases mem_addEvents hentry with hentry | ⟨e, he, -, hevent⟩
  · exact hout (List.mem_map_of_mem hentry)
  · exact hnew (hevent ▸ List.mem_map_of_mem he)

theorem updateTurn_abort (hentries : p.m_events.entries = (due, a) :: rest) (hdue : due ≤ p.m_time)
    (hflag : a.event ∈ p.to_Abort) : p.updateTurn answer =
      (((p.take due).call (.abort a due p.m_time)).addEvents answer.added).call (.delete a) := by
  rw [updateTurn, hentries]
  exact (if_pos hdue).trans (if_neg (not_not.mpr hflag))

theorem updateTurn_execute
    (hentries : p.m_events.entries = (due, a) :: rest) (hdue : due ≤ p.m_time)
    (hflag : a.event ∉ p.to_Abort) : p.updateTurn answer =
      if answer.result then
        (((p.take due).call (.execute a due p.m_time)).addEvents answer.added).call (.delete a)
      else ((p.take due).call (.execute a due p.m_time)).addEvents answer.added := by
  rw [updateTurn, hentries]
  exact (if_pos hdue).trans (if_pos hflag)

theorem updateTurn_over (hdue : ∀ entry ∈ p.m_events.entries.head?, p.m_time < entry.1) :
    p.updateTurn answer = { p with mode := .idle } := by
  rw [updateTurn]
  cases hentries : p.m_events.entries with
  | nil => rfl
  | cons entry rest =>
    rw [hentries] at hdue
    exact if_neg (Nat.not_le.mpr (hdue entry rfl))

theorem update_cases (p : EventProcessor) :
    (∀ entry ∈ p.m_events.entries.head?, p.m_time < entry.1) ∨
      ∃ due a rest, p.m_events.entries = (due, a) :: rest ∧ due ≤ p.m_time := by
  cases hentries : p.m_events.entries with
  | nil => exact .inl fun entry hentry => by cases hentry
  | cons entry rest =>
    rcases Nat.lt_or_ge p.m_time entry.1 with hlt | hge
    · exact .inl fun e he => Option.some.inj he ▸ hlt
    · exact .inr ⟨entry.1, entry.2, rest, rfl, hge⟩

theorem sound_updateTurn (h : Sound p) (hmode : p.mode = .updating t)
    (hok : Lawful p (.turn answer)) : Sound (p.updateTurn answer) := by
  have halive : p.Alive p.m_events.entries := h.alive (by simp [hmode])
  rcases update_cases p with hover | ⟨due, a, rest, hentries, hdue⟩
  · rw [updateTurn_over hover]
    exact h.idle halive
  · rw [Lawful, hmode] at hok
    obtain ⟨hadds, hagain⟩ := hok (due, a) (by rw [hentries]; rfl) hdue
    obtain ⟨hnumbers, -, -, -, hout, -⟩ := h.ledger.first hentries
    have hfirst : (due, a) ∈ p.m_events.entries := hentries ▸ List.mem_cons_self
    have hlive : a.event ∉ p.deleted := halive (due, a) hfirst
    by_cases hflag : a.event ∈ p.to_Abort
    · -- the event was marked: it is aborted, and does not come back
      have hcall : ((p.take due).call (.abort a due p.m_time)).deleted = p.deleted :=
        (deleted_call _).trans (List.append_nil _)
      have hledger : Ledger ((p.take due).call (.abort a due p.m_time)) := by
        refine h.ledger.abort hfirst hlive hflag (fun _ he => he) rfl rfl ?_ fun n hn => ?_
        · exact List.tail_sublist _
        · rw [hnumbers, List.mem_cons] at hn
          exact hn.symm
      have hsound := sound_answered hmode h hentries hdue hadds hledger rfl rfl rfl rfl hcall
      have hnew : a.event ∉ answer.added.map (·.1) := fun hmem => (hagain hmem).1 hflag
      rw [updateTurn_abort hentries hdue hflag]
      refine hsound.delete (t := t) (mode_addEvents.trans hmode) ?_ ?_
      · rwa [deleted_addEvents, hcall]
      · exact not_mem_events_addEvents hout hnew
    · have hcall : ((p.take due).call (.execute a due p.m_time)).deleted = p.deleted :=
        (deleted_call _).trans (List.append_nil _)
      have hledger := h.ledger.execute hentries hflag hlive hdue
      have hsound := sound_answered hmode h hentries hdue hadds hledger rfl rfl rfl rfl hcall
      rw [updateTurn_execute hentries hdue hflag]
      split_ifs with hresult
      · have hnew : a.event ∉ answer.added.map (·.1) := fun hmem => by
          rw [(hagain hmem).2] at hresult
          cases hresult
        refine hsound.delete (t := t) (mode_addEvents.trans hmode) ?_ ?_
        · rwa [deleted_addEvents, hcall]
        · exact not_mem_events_addEvents hout hnew
      · exact hsound

theorem Ledger.dropWhile (h : Ledger p)
    (hentries : p.m_events.entries = front ++ (due, a) :: later) :
    (p.m_events.entries.dropWhile fun entry => decide (entry.2.number ≠ a.number)) =
      (due, a) :: later := by
  have hnodup := h.numbers_nodup
  rw [numbers, hentries, List.map_append, List.nodup_append] at hnodup
  have hfront : ∀ entry ∈ front, decide (entry.2.number ≠ a.number) = true := by
    intro entry hentry
    exact decide_eq_true (hnodup.2.2 _ (List.mem_map_of_mem hentry) _ List.mem_cons_self)
  rw [hentries, List.dropWhile_append_of_pos hfront]
  simp

/-- The iterator moves on, and the event that it stood before is aborted; what this event adds finds
its place behind the next one. -/
theorem sound_moveOn (e_time : ℕ) (h : Sound p) (hmode : p.mode = .killing force (some a.number))
    (hentries : p.m_events.entries = front ++ (due, a) :: later)
    (hfront : ∀ entry ∈ front, entry.2.number ∈ p.aborted) (hback : p.Alive ((due, a) :: later))
    (hadds : p.Adds added) (hplace : ∀ e ∈ added, ∃ next ∈ later.head?, next.1 ≤ e.2) :
    let q := ((p.moveOn force later a).call (.abort a due e_time)).addEvents added
    Sound q ∧ q.mode = .killing force (later.head?.map (·.2.number)) ∧ q.deleted = p.deleted ∧
      (∀ entry ∈ front ++ [(due, a)], entry.2.number ∈ q.aborted) ∧
      ∃ later', q.m_events.entries = front ++ (due, a) :: later' ∧ q.Alive later' ∧
        later'.head? = later.head? := by
  intro q
  have hentry : (due, a) ∈ p.m_events.entries := by simp [hentries]
  have hlive : a.event ∉ p.deleted := hback (due, a) List.mem_cons_self
  have hdeleted : q.deleted = p.deleted := by
    rw [deleted_addEvents]
    exact (deleted_call _).trans (List.append_nil _)
  have haborted : q.aborted = p.aborted ++ [a.number] := by
    rw [aborted_addEvents]
    exact aborted_call _
  have hledger : Ledger q := by
    refine Ledger.addEvents ?_ hadds.1 fun e he => (hadds.2 e he).2.1
    exact h.ledger.abort hentry hlive List.mem_cons_self (fun _ he => List.mem_cons_of_mem _ he) rfl
      rfl (List.Sublist.refl _) fun _ hn => .inl hn
  have hmode' : q.mode = .killing force (later.head?.map (·.2.number)) := mode_addEvents
  have hsplit : ((p.moveOn force later a).call (.abort a due e_time)).m_events.entries =
      (front ++ [(due, a)]) ++ later := by
    rw [List.append_assoc]
    exact hentries
  obtain ⟨later', hlater, hhead⟩ := addEvents_behind hsplit hplace
  have hlater' : q.m_events.entries = front ++ (due, a) :: later' := by
    rw [hlater, List.append_assoc]
    rfl
  have hnew : ∀ entry ∈ q.m_events.entries, entry ∈ p.m_events.entries ∨
      entry.2.event ∉ q.deleted := by
    intro entry hmem
    rcases mem_addEvents hmem with hmem | ⟨e, he, -, hevent⟩
    · exact .inl hmem
    · rw [hdeleted, hevent]
      exact .inr (hadds.2 e he).2.2
  have halive : q.Alive later' := by
    intro entry hmem
    rcases hnew entry (hlater ▸ List.mem_append_right _ hmem) with hold | hnew
    · have hnodup := hledger.numbers_nodup
      rw [numbers, hlater, List.map_append, List.nodup_append] at hnodup
      have hnot : entry ∉ front ++ [(due, a)] := fun hin =>
        hnodup.2.2 _ (List.mem_map_of_mem hin) _ (List.mem_map_of_mem hmem) rfl
      have hin : entry ∈ later := by
        rw [hentries, List.mem_append, List.mem_cons] at hold
        rw [List.mem_append, List.mem_singleton, not_or] at hnot
        exact (hold.resolve_left hnot.1).resolve_left hnot.2
      rw [hdeleted]
      exact hback entry (List.mem_cons_of_mem _ hin)
    · exact hnew
  have hpast : ∀ entry ∈ front ++ [(due, a)], entry.2.number ∈ q.aborted := by
    intro entry hmem
    rw [haborted, List.mem_append]
    rcases List.mem_append.mp hmem with hmem | hmem
    · exact .inl (hfront entry hmem)
    · rw [List.mem_singleton.mp hmem]
      exact .inr (List.mem_singleton_self _)
  refine ⟨⟨hledger, ?_, ?_, ?_, ?_⟩, hmode', hdeleted, hpast, later', hlater', halive, hhead⟩
  · exact taken_addEvents.symm ▸ h.ordered
  · intro hnot entry hmem
    rcases hnew entry hmem with hold | hnew
    · rw [hdeleted]
      refine h.alive (fun i hforce => ?_) entry hold
      rw [hmode] at hforce
      cases hforce
      exact hnot _ hmode'
    · exact hnew
  · intro t hupdating
    rw [hmode'] at hupdating
    cases hupdating
  · intro force' i hkilling
    rw [hmode'] at hkilling
    cases hkilling
    exact ⟨front ++ [(due, a)], later', hlater, by rw [hhead], hpast, halive⟩

theorem entries_erase (h : Ledger p) (hentries : p.m_events.entries = front ++ (due, a) :: later) :
    (p.erase a.number).m_events.entries = front ++ later := by
  have hnodup := h.numbers_nodup
  rw [numbers, hentries, List.map_append, List.nodup_append] at hnodup
  have hfront : ∀ entry ∈ front, ¬ (entry.2.number == a.number) = true := by
    intro entry hentry heq
    exact hnodup.2.2 _ (List.mem_map_of_mem hentry) _ List.mem_cons_self (beq_iff_eq.mp heq)
  change p.m_events.entries.eraseP _ = _
  rw [hentries, List.eraseP_append_right _ hfront, List.eraseP_cons_of_pos (by simp)]

theorem sound_killed (h : Sound q) {later' : List (ℕ × Addition)}
    (hmode : q.mode = .killing force (later.head?.map (·.2.number)))
    (hentries : q.m_events.entries = front ++ (due, a) :: later')
    (hpast : ∀ entry ∈ front ++ [(due, a)], entry.2.number ∈ q.aborted) (halive : q.Alive later')
    (hhead : later'.head? = later.head?) (hlive : a.event ∉ q.deleted) :
    Sound (if force then q.call (.delete a) else (q.call (.delete a)).erase a.number) := by
  have hevents := h.ledger.events_nodup
  rw [events, hentries, List.map_append, List.map_cons, List.nodup_middle, List.nodup_cons,
    ← List.map_append] at hevents
  have hother : ∀ entry ∈ front ++ later', entry.2.event ≠ a.event :=
    fun entry hentry heq => hevents.1 (heq ▸ List.mem_map_of_mem hentry)
  have hdeleted : (q.call (.delete a)).deleted = q.deleted ++ [a.event] := deleted_call _
  have haborted : (q.call (.delete a)).aborted = q.aborted :=
    (aborted_call _).trans (List.append_nil _)
  have hback : ∀ entry ∈ later', entry.2.event ∉ q.deleted ++ [a.event] := by
    intro entry hentry hmem
    rcases List.mem_append.mp hmem with hmem | hmem
    · exact halive entry hentry hmem
    · exact hother entry (List.mem_append_right _ hentry) (List.mem_singleton.mp hmem)
  have hledger : Ledger (q.call (.delete a)) := h.ledger.delete hlive
  cases force with
  | true =>
    rw [if_pos rfl]
    refine ⟨hledger, h.ordered, fun hnot => absurd hmode (hnot _), fun t ht => ?_,
      fun force i hkilling => ?_⟩
    · change q.mode = _ at ht
      rw [hmode] at ht
      cases ht
    · change q.mode = _ at hkilling
      rw [hmode] at hkilling
      cases hkilling
      refine ⟨front ++ [(due, a)], later', ?_, by rw [hhead], ?_, ?_⟩
      · exact hentries.trans (by simp)
      · rwa [haborted]
      · exact fun entry hentry => hdeleted ▸ hback entry hentry
  | false =>
    rw [if_neg Bool.false_ne_true]
    have hsplit : ((q.call (.delete a)).erase a.number).m_events.entries = front ++ later' :=
      entries_erase hledger hentries
    have hcalls : ((q.call (.delete a)).erase a.number).deleted = q.deleted ++ [a.event] := hdeleted
    have hkept : ((q.call (.delete a)).erase a.number).aborted = q.aborted := haborted
    refine ⟨?_, h.ordered, fun _ entry hentry => ?_, fun t ht => ?_, fun force i hkilling => ?_⟩
    · refine hledger.erase List.eraseP_sublist (fun n hn => ?_) rfl rfl rfl
      obtain ⟨entry, hentry, rfl⟩ := List.mem_map.mp hn
      change entry ∈ q.m_events.entries at hentry
      rw [hentries, List.mem_append, List.mem_cons] at hentry
      rw [numbers, hsplit, haborted]
      rcases hentry with hentry | rfl | hentry
      · exact .inl (List.mem_map_of_mem (List.mem_append_left _ hentry))
      · exact .inr (hpast _ (List.mem_append_right _ (List.mem_singleton_self _)))
      · exact .inl (List.mem_map_of_mem (List.mem_append_right _ hentry))
    · rw [hsplit] at hentry
      rw [hcalls, List.mem_append, not_or]
      refine ⟨h.alive (fun i hi => ?_) entry ?_, fun hmem => ?_⟩
      · rw [hmode] at hi
        cases hi
      · rw [hentries]
        exact List.mem_append.mpr ((List.mem_append.mp hentry).imp_right (List.mem_cons_of_mem _))
      · exact hother entry hentry (List.mem_singleton.mp hmem)
    · change q.mode = _ at ht
      rw [hmode] at ht
      cases ht
    · change q.mode = _ at hkilling
      rw [hmode] at hkilling
      cases hkilling
      refine ⟨front, later', hsplit, by rw [hhead], fun entry hentry => ?_, fun entry hentry => ?_⟩
      · rw [hkept]
        exact hpast entry (List.mem_append_left _ hentry)
      · rw [hcalls]
        exact hback entry hentry

theorem sound_killTurn (h : Sound p) {i : Option ℕ}
    (hmode : p.mode = .killing force i) (hok : Lawful p (.turn answer))
    (hplace : InPlace p (.turn answer)) : Sound (p.killTurn force i answer) := by
  obtain ⟨front, back, hentries, hi, hfront, hback⟩ := h.killing force i hmode
  cases i with
  | none =>
    obtain rfl : back = [] := by simpa using hi
    rw [List.append_nil] at hentries
    cases force with
    | true =>
      refine ⟨h.ledger.erase (List.nil_sublist _) (fun n hn => ?_) rfl rfl rfl, h.ordered,
        ?_, ?_, ?_⟩
      · obtain ⟨entry, hentry, rfl⟩ := List.mem_map.mp hn
        exact .inr (hfront entry (hentries ▸ hentry))
      · exact fun _ entry hentry => absurd hentry List.not_mem_nil
      · exact fun _ hmode => by cases hmode
      · exact fun _ _ hmode => by cases hmode
    | false => exact h.idle (h.alive (by simp [hmode]))
  | some n =>
    obtain ⟨⟨due, a⟩, later, rfl, rfl⟩ :
        ∃ entry later, back = entry :: later ∧ entry.2.number = n := by
      obtain ⟨entry, hentry, hn⟩ := Option.map_eq_some_iff.mp hi
      obtain ⟨later, hlater⟩ := List.head?_eq_some_iff.mp hentry
      exact ⟨entry, later, hlater, hn⟩
    have hdrop := h.ledger.dropWhile hentries
    have hbehind : p.behind a.number = later := by rw [behind, hdrop, List.tail_cons]
    rw [Lawful, hmode] at hok
    rw [InPlace, hmode, InPlaceTurn, hbehind] at hplace
    obtain ⟨hsound, hmode', hdeleted, hpast, later', hentries', halive, hhead⟩ :=
      sound_moveOn p.m_time h hmode hentries hfront hback hok hplace
    have hlive : a.event ∉ p.deleted := hback (due, a) List.mem_cons_self
    rw [killTurn, hdrop]
    change Sound (if (force || answer.result) = true then _ else _)
    by_cases hdelete : (force || answer.result) = true
    · rw [← hdeleted] at hlive
      rw [if_pos hdelete]
      exact sound_killed hsound hmode' hentries' hpast halive hhead hlive
    · rw [if_neg hdelete]
      exact hsound

/-! ## Runs -/

theorem sound_step (op : Op) (h : Sound p) (hok : Lawful p op) (hplace : InPlace p op) :
    Sound (p.step op) := by
  cases op with
  | addEvent event e_time =>
    rw [step]
    split_ifs with hmode
    · have halive : p.Alive p.m_events.entries := h.alive (by simp [hmode])
      refine ⟨h.ledger.addEvent hok.1, h.ordered, fun _ entry hentry => ?_, fun t ht => ?_,
        fun force i hi => ?_⟩
      · rcases (p.m_events.mem_insert e_time _).mp hentry with rfl | hentry
        · exact hok.2
        · exact halive entry hentry
      · change p.mode = _ at ht
        rw [hmode] at ht
        cases ht
      · change p.mode = _ at hi
        rw [hmode] at hi
        cases hi
    · exact h
  | update p_time =>
    rw [step]
    split_ifs with hmode
    · refine ⟨h.ledger.congr rfl rfl rfl rfl, List.Pairwise.nil, fun _ => h.alive (by simp [hmode]),
        fun _ _ d hd => absurd hd List.not_mem_nil, fun _ _ hi => by cases hi⟩
    · exact h
  | killAllEvents force =>
    rw [step]
    split_ifs with hmode
    · have halive : p.Alive p.m_events.entries := h.alive (by simp [hmode])
      refine ⟨h.ledger.congr rfl rfl rfl rfl, h.ordered, fun _ => halive, fun _ ht => (by cases ht),
        fun force' i hi => ?_⟩
      cases hi
      exact ⟨[], p.m_events.entries, rfl, rfl,
        fun _ hentry => absurd hentry List.not_mem_nil, halive⟩
    · exact h
  | turn answer =>
    rw [step]
    cases hmode : p.mode with
    | idle => exact h
    | updating t => exact sound_updateTurn h hmode hok
    | killing force i => exact sound_killTurn h hmode hok hplace

theorem mode_updateTurn (hentries : p.m_events.entries = (due, a) :: rest) (hdue : due ≤ p.m_time) :
    (p.updateTurn answer).mode = p.mode := by
  by_cases hflag : a.event ∈ p.to_Abort
  · rw [updateTurn_abort hentries hdue hflag]
    exact mode_addEvents
  · rw [updateTurn_execute hentries hdue hflag]
    split_ifs
    · exact mode_addEvents
    · exact mode_addEvents

theorem Ledger.mode_killTurn (h : Ledger p)
    (hentries : p.m_events.entries = front ++ (due, a) :: later) :
    (p.killTurn force (some a.number) answer).mode =
      .killing force (later.head?.map (·.2.number)) := by
  rw [killTurn, h.dropWhile hentries]
  change (if (force || answer.result) = true then _ else _ : EventProcessor).mode = _
  split_ifs
  · exact mode_addEvents
  · exact mode_addEvents
  · exact mode_addEvents

structure Delivered (p : EventProcessor) : Prop where
  /-- No event is executed before it is due. -/
  punctual : ∀ a due e_time, .execute a due e_time ∈ p.calls → due ≤ e_time
  /-- An update takes the events in the order that they are due in. -/
  ordered : p.taken.Pairwise (· ≤ ·)
  /-- An event that was aborted is not executed; one that was deleted is not called. -/
  settled : p.calls.Pairwise Call.Settles
  /-- Each addition is queued, or executed, or aborted; and executed only once. -/
  answered : ∀ n < p.additions, n ∈ p.numbers ∨ n ∈ p.executed ∨ n ∈ p.aborted
  once : p.executed.Nodup
  executed : ∀ n ∈ p.executed, n ∉ p.numbers ∧ n ∉ p.aborted
  /-- An update that is over has answered everything that is due. -/
  update_over : ∀ p_time answer, p.mode = .updating p_time → (p.step (.turn answer)).mode = .idle →
    ∀ entry ∈ (p.step (.turn answer)).m_events.entries, p.m_time < entry.1
  /-- `KillAllEvents`, when it is over, has answered everything; by force, nothing is left. -/
  kill_over : ∀ force i answer, p.mode = .killing force i → (p.step (.turn answer)).mode = .idle →
    (force = true → (p.step (.turn answer)).m_events.entries = []) ∧
      ∀ n < p.additions, n ∈ p.executed ∨ n ∈ p.aborted

theorem Sound.delivered (h : Sound p) : Delivered p where
  punctual := fun a due e_time hcall => h.ledger.punctual _ hcall
  ordered := h.ordered
  settled := h.ledger.settled
  answered := h.ledger.answered
  once := h.ledger.executed_nodup
  executed := fun n hn => ⟨h.ledger.not_queued n hn, h.ledger.not_aborted n hn⟩
  update_over := by
    intro t answer hmode hidle
    have hturn : p.step (.turn answer) = p.updateTurn answer := by rw [step, hmode]
    rw [hturn] at hidle ⊢
    rcases update_cases p with hover | ⟨due, a, rest, hentries, hdue⟩
    · rw [updateTurn_over hover]
      -- the first event is not due, and the others are due later
      cases hentries : p.m_events.entries with
      | nil => exact fun entry hentry => absurd hentry List.not_mem_nil
      | cons first rest =>
        have hsorted := p.m_events.sorted
        rw [hentries, List.pairwise_cons] at hsorted
        rw [hentries] at hover
        have hfirst : p.m_time < first.1 := hover first rfl
        exact List.forall_mem_cons.mpr
          ⟨hfirst, fun entry hentry => hfirst.trans_le (hsorted.1 entry hentry)⟩
    · rw [mode_updateTurn hentries hdue, hmode] at hidle
      cases hidle
  kill_over := by
    intro force i answer hmode hidle
    have hturn : p.step (.turn answer) = p.killTurn force i answer := by rw [step, hmode]
    rw [hturn] at hidle ⊢
    obtain ⟨front, back, hentries, hi, hfront, -⟩ := h.killing force i hmode
    cases i with
    | none =>
      obtain rfl : back = [] := by simpa using hi
      rw [List.append_nil] at hentries
      refine ⟨fun hforce => ?_, fun n hn => ?_⟩
      · rw [hforce]
        rfl
      · rcases h.ledger.answered n hn with hqueued | hanswered
        · obtain ⟨entry, hentry, rfl⟩ := List.mem_map.mp hqueued
          exact .inr (hfront entry (hentries ▸ hentry))
        · exact hanswered
    | some n =>
      obtain ⟨⟨due, a⟩, hentry, rfl⟩ := Option.map_eq_some_iff.mp hi
      obtain ⟨later, rfl⟩ := List.head?_eq_some_iff.mp hentry
      rw [h.ledger.mode_killTurn hentries] at hidle
      cases hidle

/-- **The events are delivered**, after every run in which what an event adds while `KillAllEvents`
aborts it is due no earlier than the next event of the map. -/
theorem delivered_after {ops : List Op} (hok : Admissible step Lawful new ops)
    (hplace : Admissible step InPlace new ops) : Delivered (run step new ops) :=
  (run_invariant Sound (fun _ op h hcond => sound_step op h hcond.1 hcond.2) sound_new
    (hok.and hplace)).delivered

instance (p : EventProcessor) (added : List (ℕ × ℕ)) : Decidable (p.Adds added) :=
  inferInstanceAs (Decidable (_ ∧ _))

instance LawfulTurn.decidable (p : EventProcessor) (answer : Answer) :
    ∀ mode, Decidable (p.LawfulTurn answer mode)
  | .updating _ => inferInstanceAs (Decidable (∀ entry ∈ p.m_events.entries.head?, _ → _ ∧ _))
  | .killing _ (some _) => inferInstanceAs (Decidable (p.Adds answer.added))
  | .killing _ none | .idle => instDecidableTrue

instance Lawful.decidable (p : EventProcessor) : ∀ op, Decidable (p.Lawful op)
  | .addEvent _ _ => inferInstanceAs (Decidable (_ ∧ _))
  | .update _ | .killAllEvents _ => instDecidableTrue
  | .turn answer => LawfulTurn.decidable p answer p.mode

instance InPlaceTurn.decidable (p : EventProcessor) (answer : Answer) :
    ∀ mode, Decidable (p.InPlaceTurn answer mode)
  | .killing _ (some n) =>
    inferInstanceAs (Decidable (∀ e ∈ answer.added, ∃ next ∈ (p.behind n).head?, next.1 ≤ e.2))
  | .killing _ none | .updating _ | .idle => instDecidableTrue

instance InPlace.decidable (p : EventProcessor) : ∀ op, Decidable (p.InPlace op)
  | .turn answer => InPlaceTurn.decidable p answer p.mode
  | .addEvent _ _ | .update _ | .killAllEvents _ => instDecidableTrue

/-- An event is executed twice, and then aborted; another one is aborted, and adds a third one at
the end. -/
def dueAndKilled : List Op :=
  [.addEvent 1 10, .addEvent 2 20, .update 10, .turn ⟨[(1, 10)], false⟩, .turn ⟨[(1, 30)], false⟩,
    .turn ⟨[], true⟩, .killAllEvents true, .turn ⟨[(3, 40)], true⟩, .turn ⟨[], true⟩,
    .turn ⟨[], true⟩, .turn ⟨[], true⟩]

theorem delivered_after_dueAndKilled : Delivered (run step new dueAndKilled) :=
  delivered_after (by decide +kernel) (by decide +kernel)

/-- An event that is killed by force adds one that nobody comes by. -/
def killedByForce : List Op :=
  [.addEvent 1 10, .killAllEvents true, .turn ⟨[(2, 10)], true⟩, .turn ⟨[], true⟩]

/-- **An addition is dropped**: it is neither queued nor executed nor aborted. -/
theorem dropped_by_force :
    let p := run step new killedByForce
    Admissible step Lawful new killedByForce ∧ p.mode = .idle ∧ p.additions = 2 ∧
      1 ∉ p.numbers ∧ 1 ∉ p.executed ∧ 1 ∉ p.aborted := by
  decide +kernel

end EventProcessor

end TeraCore.Utilities
