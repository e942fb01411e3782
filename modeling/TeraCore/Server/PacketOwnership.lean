import Mathlib.Data.List.Nodup
import Mathlib.Data.List.Perm.Subperm
import TeraCore.Server.WorldSession

/-!
# World sessions: who owns a packet

A packet that comes in belongs to the receive queue, until an update takes it.  What the update does
not put back it has to delete.

One flag says so for all packets of an update: once a packet is put back, nothing that is taken
later is deleted.

## Main results

* `UpdateLoop.fair_turns`: no packet is taken twice
* `UpdateLoop.length_taken_run`: a loop that goes on takes a packet in each turn
* `update_owned_iff`: when every packet is in the queue, or deleted
-/

namespace TeraCore.Server

open Commons

/-- The packets that come in while one is looked at. -/
def Outcome.arrivals (outcome : Outcome) : List Packet := outcome.arrived ++ outcome.arrivedLater

/-- **A turn that is punctual**: behind a packet that was put back, only such are taken that come
too early, too. -/
def Punctual (table : OpcodeTable) (filter : Session → Packet → Bool) (l : UpdateLoop)
    (_ : Outcome) : Prop :=
  l.goesOn filter = true → l.firstDelayedPacket.isSome = true →
    ∀ packet ∈ l.recvQueue.head?, table.tooEarly l.session packet = true

instance Punctual.decidable (table : OpcodeTable) (filter : Session → Packet → Bool)
    (l : UpdateLoop) (outcome : Outcome) : Decidable (Punctual table filter l outcome) :=
  inferInstanceAs (Decidable (_ → _ → ∀ packet ∈ l.recvQueue.head?,
    table.tooEarly l.session packet = true))

namespace UpdateLoop

variable {table : OpcodeTable} {filter : Session → Packet → Bool} {l : UpdateLoop}
  {outcome : Outcome} {outcomes : List Outcome} {packet : Packet} {rest : List Packet}

/-- **The turns of the loop**: it is over, or the packet at the front is taken. -/
theorem step_cases (table : OpcodeTable) (filter : Session → Packet → Bool) (l : UpdateLoop)
    (outcome : Outcome) :
    (l.goesOn filter = false ∧ l.step table filter outcome = l) ∨
      ∃ packet rest, l.recvQueue = packet :: rest ∧ l.goesOn filter = true ∧
        some packet ≠ l.firstDelayedPacket ∧
        l.step table filter outcome = l.body table packet rest outcome := by
  unfold step
  cases hqueue : l.recvQueue with
  | nil => exact .inl ⟨by rw [goesOn, hqueue], rfl⟩
  | cons packet rest =>
    by_cases hon : l.goesOn filter = true
    · refine .inr ⟨packet, rest, rfl, hon, ?_, if_pos hon⟩
      rw [goesOn, hqueue] at hon
      simp only [Bool.and_eq_true, decide_eq_true_eq] at hon
      exact hon.1.2
    · exact .inl ⟨by simpa using hon, if_neg hon⟩

/-! ## What is taken -/

/-- **The loop is fair**, for what there was: nothing is there twice, and the packets in front of
the one that was put back first have not been taken. -/
structure Fair (all : List Packet) (l : UpdateLoop) : Prop where
  queue_nodup : l.recvQueue.Nodup
  taken_nodup : l.taken.Nodup
  queue_mem : ∀ packet ∈ l.recvQueue, packet ∈ all
  taken_mem : ∀ packet ∈ l.taken, packet ∈ all
  ahead : ∃ front back, l.recvQueue = front ++ back ∧ (∀ packet ∈ front, packet ∉ l.taken) ∧
    back.head? = l.firstDelayedPacket

theorem Fair.front {all : List Packet} (h : Fair all l) (hqueue : l.recvQueue = packet :: rest)
    (hnot : some packet ≠ l.firstDelayedPacket) : ∃ front back, rest = front ++ back ∧
      (∀ p ∈ packet :: front, p ∉ l.taken) ∧ back.head? = l.firstDelayedPacket := by
  obtain ⟨front, back, hsplit, hfront, hback⟩ := h.ahead
  rw [hqueue] at hsplit
  cases front with
  | nil =>
    rw [List.nil_append] at hsplit
    rw [← hback, ← hsplit] at hnot
    exact absurd rfl hnot
  | cons p front =>
    obtain ⟨rfl, rfl⟩ := List.cons.inj hsplit
    exact ⟨front, back, rfl, hfront, hback⟩

theorem recvQueue_body_early (h : table.tooEarly l.session packet = true) :
    (l.body table packet rest outcome).recvQueue =
      rest ++ outcome.arrived ++ packet :: outcome.arrivedLater := by
  simp [body, h]

theorem recvQueue_body_other (h : table.tooEarly l.session packet = false) :
    (l.body table packet rest outcome).recvQueue = rest ++ outcome.arrivals := by
  simp [body, h, Outcome.arrivals]

theorem firstDelayedPacket_body_of_some {first : Packet} (h : l.firstDelayedPacket = some first) :
    (l.body table packet rest outcome).firstDelayedPacket = some first := by
  simp [body, h]

theorem fair_body {all : List Packet} (h : Fair all l) (hqueue : l.recvQueue = packet :: rest)
    (hnot : some packet ≠ l.firstDelayedPacket) (hall : (all ++ outcome.arrivals).Nodup) :
    Fair (all ++ outcome.arrivals) (l.body table packet rest outcome) := by
  obtain ⟨front, back, rfl, hfront, hback⟩ := h.front hqueue hnot
  rw [List.forall_mem_cons] at hfront
  obtain ⟨-, harrivals, hnew⟩ := List.nodup_append.mp hall
  have hmem : ∀ p ∈ packet :: (front ++ back), p ∈ all := hqueue ▸ h.queue_mem
  have hqueued : (packet :: (front ++ back)).Nodup := hqueue ▸ h.queue_nodup
  have hnodup : (packet :: (front ++ back) ++ outcome.arrivals).Nodup :=
    List.nodup_append.mpr ⟨hqueued, harrivals, fun p hp => hnew p (hmem p hp)⟩
  -- what comes in has not been taken, nor has what is still in front
  have hfresh : ∀ p ∈ front ++ outcome.arrivals, p ∉ l.taken ++ [packet] := by
    intro p hp htaken
    have hdistinct := List.nodup_cons.mp hnodup
    rcases List.mem_append.mp hp with hp | hp
    · rcases List.mem_append.mp htaken with htaken | htaken
      · exact hfront.2 p hp htaken
      · rw [List.mem_singleton.mp htaken] at hp
        exact hdistinct.1 (by simp [hp])
    · rcases List.mem_append.mp htaken with htaken | htaken
      · exact hnew p (h.taken_mem p htaken) p hp rfl
      · rw [List.mem_singleton.mp htaken] at hp
        exact hdistinct.1 (by simp [hp])
  have htaken : (l.taken ++ [packet]).Nodup := by
    rw [List.nodup_append]
    refine ⟨h.taken_nodup, by simp, fun p hp q hq => ?_⟩
    rw [List.mem_singleton.mp hq]
    exact fun heq => hfront.1 (heq ▸ hp)
  have hsub : (l.body table packet (front ++ back) outcome).recvQueue.Subperm
      (packet :: (front ++ back) ++ outcome.arrivals) := by
    cases hearly : table.tooEarly l.session packet with
    | true =>
      rw [recvQueue_body_early hearly, Outcome.arrivals, List.cons_append, ← List.append_assoc]
      exact List.perm_middle.subperm
    | false =>
      rw [recvQueue_body_other hearly]
      exact (List.sublist_cons_self packet _).subperm
  have hsubset : ∀ p ∈ packet :: (front ++ back) ++ outcome.arrivals, p ∈ all ++ outcome.arrivals :=
    fun p hp => List.mem_append.mpr ((List.mem_append.mp hp).imp_left (hmem p))
  refine ⟨?_, htaken, fun p hp => hsubset p (hsub.subset hp), ?_, ?_⟩
  · obtain ⟨queue, hperm, hsublist⟩ := hsub
    exact hperm.nodup_iff.mp (hsublist.nodup hnodup)
  · intro p hp
    rcases List.mem_append.mp hp with hp | hp
    · exact List.mem_append_left _ (h.taken_mem p hp)
    · rw [List.mem_singleton.mp hp]
      exact List.mem_append_left _ (hmem packet List.mem_cons_self)
  · have hfront : ∀ p ∈ front, p ∉ l.taken ++ [packet] := fun p hp => hfresh p (by simp [hp])
    cases hfirst : l.firstDelayedPacket with
    | some first =>
      -- the packet that was put back first stays where it is
      rw [hfirst] at hback
      obtain ⟨back, rfl⟩ : ∃ behind, back = first :: behind := List.head?_eq_some_iff.mp hback
      rw [firstDelayedPacket_body_of_some hfirst]
      cases hearly : table.tooEarly l.session packet with
      | true =>
        refine ⟨front, first :: (back ++ outcome.arrived ++ packet :: outcome.arrivedLater), ?_,
          hfront, rfl⟩
        simp [recvQueue_body_early hearly]
      | false =>
        refine ⟨front, first :: (back ++ outcome.arrivals), ?_, hfront, rfl⟩
        simp [recvQueue_body_other hearly]
    | none =>
      rw [hfirst, List.head?_eq_none_iff] at hback
      subst hback
      have hahead : ∀ p ∈ front ++ outcome.arrived, p ∉ l.taken ++ [packet] := by
        intro p hp
        refine hfresh p ?_
        rw [Outcome.arrivals, ← List.append_assoc]
        exact List.mem_append_left _ hp
      cases hearly : table.tooEarly l.session packet with
      | true =>
        refine ⟨front ++ outcome.arrived, packet :: outcome.arrivedLater, ?_, hahead, ?_⟩
        · rw [recvQueue_body_early hearly, List.append_nil]
        · simp [body, hearly, hfirst]
      | false =>
        refine ⟨front ++ outcome.arrivals, [], ?_, hfresh, ?_⟩
        · rw [recvQueue_body_other hearly, List.append_nil, List.append_nil]
        · simp [body, hearly, hfirst]

theorem arrived_body :
    (l.body table packet rest outcome).arrived = l.arrived ++ outcome.arrivals := by
  simp [body, Outcome.arrivals]

/-- **No packet is taken twice**, when no packet comes in twice. -/
theorem fair_turns {queue : List Packet} (h : Fair (queue ++ l.arrived) l)
    (hfresh : (queue ++ l.arrived ++ outcomes.flatMap Outcome.arrivals).Nodup) :
    Fair (queue ++ (run (step table filter) l outcomes).arrived)
      (run (step table filter) l outcomes) := by
  induction outcomes generalizing l with
  | nil => exact h
  | cons outcome outcomes ih =>
    rw [List.flatMap_cons, ← List.append_assoc] at hfresh
    rw [run_cons]
    rcases step_cases table filter l outcome with
      ⟨-, hstep⟩ | ⟨packet, rest, hqueue, -, hnot, hstep⟩
    · rw [hstep]
      refine ih h (hfresh.sublist ?_)
      exact (List.sublist_append_left _ _).append (List.Sublist.refl _)
    · rw [hstep]
      refine ih ?_ ?_
      · rw [arrived_body, ← List.append_assoc]
        exact fair_body h hqueue hnot (List.nodup_append.mp hfresh).1
      · rwa [arrived_body, ← List.append_assoc]

/-! ## The end of an update -/

theorem run_of_over (hover : l.goesOn filter = false) :
    run (step table filter) l outcomes = l := by
  induction outcomes with
  | nil => rfl
  | cons outcome outcomes ih =>
    rcases step_cases table filter l outcome with ⟨-, hstep⟩ | ⟨-, -, -, hon, -⟩
    · rw [run_cons, hstep, ih]
    · rw [hover] at hon
      cases hon

/-- **A loop that still goes on** has taken a packet in each of its turns. -/
theorem length_taken_run (h : (run (step table filter) l outcomes).goesOn filter = true) :
    (run (step table filter) l outcomes).taken.length = l.taken.length + outcomes.length := by
  induction outcomes generalizing l with
  | nil => rfl
  | cons outcome outcomes ih =>
    rw [run_cons] at h ⊢
    rw [ih h]
    rcases step_cases table filter l outcome with ⟨hover, hstep⟩ | ⟨packet, rest, -, -, -, hstep⟩
    · rw [hstep, run_of_over hover, hover] at h
      cases h
    · rw [hstep]
      simp only [body, List.length_append, List.length_cons, List.length_nil]
      omega

/-! ## Ownership -/

/-- The flag is set as long as nothing was put back. -/
def Flagged (l : UpdateLoop) : Prop := l.deletePacket = l.firstDelayedPacket.isNone

theorem flagged_body (h : Flagged l) : Flagged (l.body table packet rest outcome) := by
  unfold Flagged at h ⊢
  cases hearly : table.tooEarly l.session packet with
  | true => cases hfirst : l.firstDelayedPacket <;> simp [body, hearly, hfirst]
  | false => simp [body, hearly, h]

theorem flagged_step (h : Flagged l) : Flagged (l.step table filter outcome) := by
  rcases step_cases table filter l outcome with ⟨-, hstep⟩ | ⟨packet, rest, -, -, -, hstep⟩
  · rwa [hstep]
  · rw [hstep]
    exact flagged_body h

theorem deleted_body_early (h : table.tooEarly l.session packet = true) :
    (l.body table packet rest outcome).deleted = l.deleted := by
  simp [body, h]

theorem deleted_body_other (h : table.tooEarly l.session packet = false) :
    (l.body table packet rest outcome).deleted =
      if l.deletePacket then l.deleted ++ [packet] else l.deleted := by
  simp [body, h]

theorem body_owned (table : OpcodeTable) (outcome : Outcome) (hflag : Flagged l)
    (hqueue : l.recvQueue = packet :: rest) (hon : l.goesOn filter = true) :
    (Punctual table filter l outcome ∧
      ((l.body table packet rest outcome).recvQueue ++
        (l.body table packet rest outcome).deleted).Perm
          (l.recvQueue ++ l.deleted ++ outcome.arrivals)) ∨
    (¬ Punctual table filter l outcome ∧
      (l.body table packet rest outcome).recvQueue.length +
        (l.body table packet rest outcome).deleted.length + 1 =
          l.recvQueue.length + l.deleted.length + outcome.arrivals.length) := by
  cases hearly : table.tooEarly l.session packet with
  | true =>
    refine .inl ⟨fun _ _ p hp => ?_, ?_⟩
    · rw [hqueue] at hp
      rwa [← Option.some.inj hp]
    · rw [recvQueue_body_early hearly, deleted_body_early hearly, hqueue, Outcome.arrivals]
      refine List.perm_iff_count.mpr fun p => ?_
      simp only [List.count_append, List.count_cons]
      omega
  | false =>
    rw [recvQueue_body_other hearly, deleted_body_other hearly, hqueue, hflag]
    cases hfirst : l.firstDelayedPacket with
    | none =>
      refine .inl ⟨fun _ hsome => ?_, ?_⟩
      · rw [hfirst] at hsome
        cases hsome
      · refine List.perm_iff_count.mpr fun p => ?_
        simp only [Option.isNone_none, if_true, List.count_append, List.count_cons, List.count_nil]
        omega
    | some first =>
      refine .inr ⟨fun hok => ?_, ?_⟩
      · have hlate := hok hon (by rw [hfirst]; rfl) packet (by rw [hqueue]; rfl)
        rw [hearly] at hlate
        cases hlate
      · simp only [Option.isNone_some, Bool.false_eq_true, if_false, List.length_append,
          List.length_cons]
        omega

theorem perm_step {queue : List Packet} (hflag : Flagged l) (hok : Punctual table filter l outcome)
    (h : (l.recvQueue ++ l.deleted).Perm (queue ++ l.arrived)) :
    ((l.step table filter outcome).recvQueue ++ (l.step table filter outcome).deleted).Perm
      (queue ++ (l.step table filter outcome).arrived) := by
  rcases step_cases table filter l outcome with ⟨-, hstep⟩ | ⟨packet, rest, hqueue, hon, -, hstep⟩
  · rwa [hstep]
  · rw [hstep, arrived_body, ← List.append_assoc]
    rcases body_owned table outcome hflag hqueue hon with
      ⟨-, hperm⟩ | ⟨hnot, -⟩
    · exact hperm.trans (h.append_right _)
    · exact absurd hok hnot

theorem perm_run {queue : List Packet} (hflag : Flagged l)
    (hok : Admissible (step table filter) (Punctual table filter) l outcomes)
    (h : (l.recvQueue ++ l.deleted).Perm (queue ++ l.arrived)) :
    ((run (step table filter) l outcomes).recvQueue ++
      (run (step table filter) l outcomes).deleted).Perm
        (queue ++ (run (step table filter) l outcomes).arrived) :=
  (run_invariant (fun l' => Flagged l' ∧ (l'.recvQueue ++ l'.deleted).Perm (queue ++ l'.arrived))
    (fun _ _ hinv hpunctual => ⟨flagged_step hinv.1, perm_step hinv.1 hpunctual hinv.2⟩)
    ⟨hflag, h⟩ hok).2

/-- How many packets are owned. -/
def owned (l : UpdateLoop) : ℕ := l.recvQueue.length + l.deleted.length

theorem owned_step (table : OpcodeTable) (filter : Session → Packet → Bool) (outcome : Outcome)
    (hflag : Flagged l) :
    (l.step table filter outcome).owned + l.arrived.length ≤
        l.owned + (l.step table filter outcome).arrived.length ∧
      (l.owned + (l.step table filter outcome).arrived.length ≤
          (l.step table filter outcome).owned + l.arrived.length →
        Punctual table filter l outcome) := by
  rcases step_cases table filter l outcome with
    ⟨hover, hstep⟩ | ⟨packet, rest, hqueue, hon, -, hstep⟩
  · rw [hstep]
    refine ⟨Nat.le_refl _, fun _ hon => ?_⟩
    rw [hover] at hon
    cases hon
  · rw [hstep, arrived_body, List.length_append]
    rcases body_owned table outcome hflag hqueue hon with
      ⟨hok, hperm⟩ | ⟨-, hlost⟩
    · refine ⟨?_, fun _ => hok⟩
      have hlength := hperm.length_eq
      simp only [List.length_append] at hlength
      unfold owned
      omega
    · unfold owned
      refine ⟨by omega, fun hkept => by omega⟩

/-- **An update that loses no packet** is punctual, in each of its turns. -/
theorem owned_run (hflag : Flagged l) :
    (run (step table filter) l outcomes).owned + l.arrived.length ≤
        l.owned + (run (step table filter) l outcomes).arrived.length ∧
      (l.owned + (run (step table filter) l outcomes).arrived.length ≤
          (run (step table filter) l outcomes).owned + l.arrived.length →
        Admissible (step table filter) (Punctual table filter) l outcomes) := by
  induction outcomes generalizing l with
  | nil => exact ⟨Nat.le_refl _, fun _ => trivial⟩
  | cons outcome outcomes ih =>
    obtain ⟨hle, hpunctual⟩ := owned_step table filter outcome hflag
    obtain ⟨hrun, hadmissible⟩ := ih (flagged_step hflag)
    rw [run_cons]
    refine ⟨by omega, fun hkept => ⟨hpunctual (by omega), hadmissible (by omega)⟩⟩

end UpdateLoop

open UpdateLoop in
/-- **Who owns a packet** after an update: no packet is taken twice, the update comes to an end, and
is over when the first packet that it put back is at the front; and every packet is in the queue or
deleted, and only once, just if nothing is taken behind a packet that is put back, but what is put
back, too. -/
theorem update_owned_iff {table : OpcodeTable} {filter : Session → Packet → Bool}
    {session : Session} {recvQueue : List Packet} {outcomes : List Outcome}
    (hfresh : (recvQueue ++ outcomes.flatMap Outcome.arrivals).Nodup) :
    let l := session.update table filter recvQueue outcomes
    l.taken.Nodup ∧
      (recvQueue.length + l.arrived.length < outcomes.length → l.goesOn filter = false) ∧
      (∀ first, l.firstDelayedPacket = some first → first ∈ l.recvQueue ∧
        (l.recvQueue.head? = some first → l.goesOn filter = false)) ∧
      ((l.recvQueue ++ l.deleted).Perm (recvQueue ++ l.arrived) ↔
        Admissible (step table filter) (Punctual table filter) (.start session recvQueue)
          outcomes) := by
  intro l
  have hstart : Fair (recvQueue ++ (UpdateLoop.start session recvQueue).arrived)
      (.start session recvQueue) := by
    have hnodup : recvQueue.Nodup := (List.nodup_append.mp hfresh).1
    refine ⟨hnodup, List.nodup_nil, ?_, by simp [UpdateLoop.start], recvQueue, [], ?_, ?_, rfl⟩
    · simp [UpdateLoop.start]
    · simp [UpdateLoop.start]
    · simp [UpdateLoop.start]
  have hfair : Fair (recvQueue ++ l.arrived) l :=
    fair_turns hstart (by simpa [UpdateLoop.start] using hfresh)
  have hflag : Flagged (.start session recvQueue) := rfl
  refine ⟨hfair.taken_nodup, ?_, ?_, ?_, ?_⟩
  · intro hlong
    by_contra hon
    have htaken : l.taken.length = 0 + outcomes.length :=
      length_taken_run (Bool.not_eq_false _ ▸ hon)
    have hle : l.taken.length ≤ (recvQueue ++ l.arrived).length :=
      (hfair.taken_nodup.subperm hfair.taken_mem).length_le
    rw [List.length_append] at hle
    omega
  · intro first hfirst
    obtain ⟨front, back, hqueue, -, hback⟩ := hfair.ahead
    rw [hfirst] at hback
    refine ⟨?_, fun hhead => ?_⟩
    · rw [hqueue]
      exact List.mem_append_right _ (List.mem_of_mem_head? hback)
    · obtain ⟨rest, hrest⟩ := List.head?_eq_some_iff.mp hhead
      simp [goesOn, hrest, hfirst]
  · intro hperm
    refine (owned_run hflag).2 ?_
    have hlength := hperm.length_eq
    simp only [List.length_append] at hlength
    change recvQueue.length + 0 + l.arrived.length ≤ l.owned + 0
    unfold owned
    omega
  · intro hok
    exact perm_run hflag hok (by simp [UpdateLoop.start])

/-- A session without a player yet, whose socket stays open. -/
def loggingIn : Session where
  socketOpen := true
  player := none
  playerRecentlyLogout := false
  playerLogout := false
  inQueue := false
  playerBots := false

/-- Handlers that leave everything as it is. -/
def quiet : Outcome where
  handler := id
  handlerThrows := false
  bots := id
  closed := false
  arrived := []
  arrivedLater := []

/-- Two opcodes: for a player in the game, and for an account. -/
def twoOpcodes : OpcodeTable where
  numMsgTypes := 2
  status opcode := if opcode = 0 then .loggedIn else .authed

/-- An account's packet, and two that come too early. -/
def beforeLogin : List Packet := [⟨1, 1⟩, ⟨2, 0⟩, ⟨3, 0⟩]

theorem update_owned_iff_beforeLogin :
    let l := loggingIn.update twoOpcodes (fun _ _ => true) beforeLogin [quiet, quiet, quiet]
    (l.recvQueue ++ l.deleted).Perm (beforeLogin ++ l.arrived) := by
  have hfresh : (beforeLogin ++ [quiet, quiet, quiet].flatMap Outcome.arrivals).Nodup := by
    decide
  exact (update_owned_iff hfresh).2.2.2.mpr (by decide)

/-- **A packet is lost** behind one that came too early. -/
theorem lost_behind_early :
    let l := loggingIn.update twoOpcodes (fun _ _ => true) [⟨1, 0⟩, ⟨2, 1⟩] [quiet, quiet, quiet]
    l.goesOn (fun _ _ => true) = false ∧ (⟨2, 1⟩ : Packet) ∉ l.recvQueue ∧
      (⟨2, 1⟩ : Packet) ∉ l.deleted := by
  decide

end TeraCore.Server
