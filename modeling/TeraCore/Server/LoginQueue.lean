import Mathlib.Algebra.Order.BigOperators.Group.List
import Mathlib.Algebra.Order.Group.Nat
import Mathlib.Data.List.Perm.Subperm
import TeraCore.Server.World

/-!
# What holds of the login queue

Taking a session out of the queue, admitting the first one and telling positions are the parts of
`RemoveQueuedPlayer`.  Each of them keeps the queue and the flags of the sessions together; the
positions are right again when all of them are done.

## Main results

* `queueSound_run`: it holds after every run
-/

namespace TeraCore.LoginQueue

open Commons OrderedMap

/-! ## First in, first out -/

/-- **What may happen to a queue.**  Who is admitted is the first, and the number of sessions that
stay and do not wait is below the limit, when there is one. -/
def QueueEvent.apply : List Address → QueueEvent → Option (List Address)
  | queue, .joined sess => if sess ∈ queue then none else some (queue ++ [sess])
  | queue, .left sess => if sess ∈ queue then some (queue.erase sess) else none
  | [], .admitted _ _ _ => none
  | popSess :: queue, .admitted sess staying limit =>
    if popSess = sess ∧ (limit = 0 ∨ staying < limit) then some queue else none

/-- The queue that a history leaves. -/
def replay (history : List QueueEvent) : Option (List Address) :=
  run (stepOption QueueEvent.apply) (some []) history

theorem replay_append (history : List QueueEvent) (e : QueueEvent) :
    replay (history ++ [e]) = (replay history).bind fun queue => e.apply queue :=
  run_append _ _ _

namespace World

/-! ## The flags of the sessions -/

/-- The account of a session and its flag. -/
def tag (w : World) (sess : Address) : Option (AccountId × Bool) :=
  (w.live.find? sess).map fun s => (s.accountId, s.m_inQueue)

variable {w : World} {sess p : Address} {a : AccountId} {f : WorldSession → WorldSession}
  {queue : List Address}

theorem tag_eq_some {b : Bool} :
    w.tag sess = some (a, b) ↔
      ∃ s, w.live.find? sess = some s ∧ s.accountId = a ∧ s.m_inQueue = b := by
  simp [tag, Prod.ext_iff]

theorem isInQueue_eq : w.isInQueue sess = (w.tag sess).any (·.2) := by
  simp [isInQueue, tag, Option.any_map]

variable (f)

theorem live_modify :
    (w.modify sess f).live.find? p =
      if p = sess then (w.live.find? sess).map f else w.live.find? p := by
  unfold modify
  cases h : w.live.find? sess with
  | none =>
    dsimp only
    split
    · rename_i hp
      rw [hp, h]
      rfl
    · rfl
  | some s => exact find?_set _ _ _ _

theorem live_modify_of_ne (h : p ≠ sess) : (w.modify sess f).live.find? p = w.live.find? p := by
  rw [live_modify, if_neg h]

variable {f}

variable (w sess) in
theorem modify_fields (f : WorldSession → WorldSession) :
    (w.modify sess f).m_sessions = w.m_sessions ∧
      (w.modify sess f).m_QueuedPlayer = w.m_QueuedPlayer ∧
      (w.modify sess f).m_playerLimit = w.m_playerLimit ∧
      (w.modify sess f).history = w.history := by
  unfold modify
  split <;> exact ⟨rfl, rfl, rfl, rfl⟩

theorem tag_modify (hf : ∀ s, (f s).accountId = s.accountId ∧ (f s).m_inQueue = s.m_inQueue) :
    (w.modify sess f).tag = w.tag := by
  funext p
  simp only [tag, live_modify]
  split
  · rename_i hp
    rw [hp, Option.map_map]
    congr 1
    funext s
    exact Prod.ext (hf s).1 (hf s).2
  · rfl

theorem tag_modify_flag {state : Bool}
    (hf : ∀ s, (f s).accountId = s.accountId ∧ (f s).m_inQueue = state) :
    (w.modify sess f).tag p =
      if p = sess then (w.tag sess).map fun t => (t.1, state) else w.tag p := by
  simp only [tag, live_modify]
  split
  · rw [Option.map_map, Option.map_map]
    congr 1
    funext s
    exact Prod.ext (hf s).1 (hf s).2
  · rfl

/-! ## The queue and the flags -/

/-- **The queue, the flags and `m_sessions` agree.** -/
structure Listed (w : World) : Prop where
  nodup : w.m_QueuedPlayer.Nodup
  flag : ∀ p a b, w.tag p = some (a, b) → (b = true ↔ p ∈ w.m_QueuedPlayer)
  current : ∀ p ∈ w.m_QueuedPlayer, ∃ a, w.tag p = some (a, true) ∧ w.m_sessions.find? a = some p
  mapped : ∀ a p, w.m_sessions.find? a = some p → ∃ b, w.tag p = some (a, b)
  replayed : replay w.history = some w.m_QueuedPlayer

theorem Listed.congr (h : Listed w) {w' : World} (htag : w'.tag = w.tag)
    (hsessions : ∀ a, w'.m_sessions.find? a = w.m_sessions.find? a)
    (hqueue : w'.m_QueuedPlayer = w.m_QueuedPlayer) (hhistory : w'.history = w.history) :
    Listed w' where
  nodup := hqueue ▸ h.nodup
  flag := by
    rw [htag, hqueue]
    exact h.flag
  current := by
    simp only [htag, hqueue, hsessions]
    exact h.current
  mapped := by
    simp only [htag, hsessions]
    exact h.mapped
  replayed := by
    rw [hhistory, hqueue]
    exact h.replayed

theorem Listed.modify (h : Listed w)
    (hf : ∀ s, (f s).accountId = s.accountId ∧ (f s).m_inQueue = s.m_inQueue) :
    Listed (w.modify sess f) :=
  have hfields := modify_fields w sess f
  h.congr (tag_modify hf) (fun _ => congrArg (OrderedMap.find? · _) hfields.1) hfields.2.1
    hfields.2.2.2

theorem Listed.account_unique (h : Listed w) {a' : AccountId}
    (ha : w.m_sessions.find? a = some p) (ha' : w.m_sessions.find? a' = some p) : a = a' := by
  obtain ⟨b, hb⟩ := h.mapped a p ha
  obtain ⟨b', hb'⟩ := h.mapped a' p ha'
  rw [hb] at hb'
  exact congrArg Prod.fst (Option.some.inj hb')

theorem Listed.leave (h : Listed w)
    (hf : ∀ s, (f s).accountId = s.accountId ∧ (f s).m_inQueue = false) {e : QueueEvent}
    (he : e.apply w.m_QueuedPlayer = some (w.m_QueuedPlayer.erase sess))
    (hqueue : queue = w.m_QueuedPlayer.erase sess) :
    Listed { w.modify sess f with m_QueuedPlayer := queue, history := w.history ++ [e] } := by
  subst hqueue
  have hmem : ∀ p, p ∈ w.m_QueuedPlayer.erase sess ↔ p ≠ sess ∧ p ∈ w.m_QueuedPlayer :=
    fun p => h.nodup.mem_erase_iff
  have htag : ∀ p, World.tag { w.modify sess f with
      m_QueuedPlayer := w.m_QueuedPlayer.erase sess, history := w.history ++ [e] } p =
        if p = sess then (w.tag sess).map fun t => (t.1, false) else w.tag p :=
    fun p => tag_modify_flag hf
  have hsessions := (modify_fields w sess f).1
  refine ⟨h.nodup.erase sess, fun p a b hp => ?_, fun p hp => ?_, fun a p hp => ?_, ?_⟩
  · rw [htag] at hp
    rw [hmem]
    by_cases heq : p = sess
    · rw [if_pos heq] at hp
      obtain ⟨t, -, ht⟩ := Option.map_eq_some_iff.mp hp
      obtain rfl : false = b := congrArg Prod.snd ht
      exact iff_of_false Bool.false_ne_true fun hp => hp.1 heq
    · rw [if_neg heq] at hp
      exact (h.flag p a b hp).trans (and_iff_right heq).symm
  · obtain ⟨hne, hp⟩ := (hmem p).mp hp
    obtain ⟨a, ha, hcurrent⟩ := h.current p hp
    refine ⟨a, ?_, ?_⟩
    · rw [htag, if_neg hne, ha]
    · exact (congrArg (OrderedMap.find? · a) hsessions).trans hcurrent
  · obtain ⟨b, hb⟩ := h.mapped a p ((congrArg (OrderedMap.find? · a) hsessions).symm.trans hp)
    rw [htag]
    by_cases heq : p = sess
    · rw [if_pos heq, ← heq, hb]
      exact ⟨false, rfl⟩
    · rw [if_neg heq]
      exact ⟨b, hb⟩
  · change replay (w.history ++ [e]) = _
    rw [replay_append, h.replayed]
    exact he

/-! ## Positions -/

/-- **The sessions of a list were told their places**, counted from `position` on. -/
def Told (w : World) (queue : List Address) (position : ℕ) : Prop :=
  ∀ i p s, queue[i]? = some p → w.live.find? p = some s → s.lastPosition = some (position + i)

theorem lastPosition_send (s : WorldSession) (packets : List Packet) :
    (s.send packets).lastPosition =
      ((packets.filterMap Packet.position).getLast?).or s.lastPosition := by
  simp only [WorldSession.lastPosition, WorldSession.send, List.filterMap_append,
    List.getLast?_append]

theorem sendPositions_fields (queue : List Address) (position : ℕ) :
    (w.sendPositions queue position).tag = w.tag ∧
      (w.sendPositions queue position).m_sessions = w.m_sessions ∧
      (w.sendPositions queue position).m_QueuedPlayer = w.m_QueuedPlayer ∧
      (w.sendPositions queue position).m_playerLimit = w.m_playerLimit ∧
      (w.sendPositions queue position).history = w.history := by
  induction queue generalizing w position with
  | nil => exact ⟨rfl, rfl, rfl, rfl, rfl⟩
  | cons sess rest ih =>
    obtain ⟨htag, hsessions, hqueue, hlimit, hhistory⟩ :=
      ih (w := w.modify sess (.send [.waitQue position])) (position + 1)
    obtain ⟨hsessions', hqueue', hlimit', hhistory'⟩ :=
      modify_fields w sess (.send [.waitQue position])
    exact ⟨htag.trans (tag_modify fun s => ⟨rfl, rfl⟩), hsessions.trans hsessions',
      hqueue.trans hqueue', hlimit.trans hlimit', hhistory.trans hhistory'⟩

theorem live_sendPositions_of_not_mem (position : ℕ) (hp : p ∉ queue) :
    (w.sendPositions queue position).live.find? p = w.live.find? p := by
  induction queue generalizing w position with
  | nil => rfl
  | cons sess rest ih =>
    rw [List.mem_cons, not_or] at hp
    exact (ih (position + 1) hp.2).trans (live_modify_of_ne _ hp.1)

theorem told_sendPositions (hnodup : queue.Nodup) (position : ℕ) :
    Told (w.sendPositions queue position) queue position := by
  induction queue generalizing w position with
  | nil =>
    intro i p s hi
    rw [List.getElem?_nil] at hi
    cases hi
  | cons sess rest ih =>
    obtain ⟨hsess, hrest⟩ := List.nodup_cons.mp hnodup
    intro i p s hi hp
    cases i with
    | zero =>
      obtain rfl : sess = p := Option.some.inj hi
      have hp' : ((w.modify sess (.send [.waitQue position])).sendPositions rest
          (position + 1)).live.find? sess = some s := hp
      rw [live_sendPositions_of_not_mem _ hsess, live_modify, if_pos rfl] at hp'
      obtain ⟨s', -, rfl⟩ := Option.map_eq_some_iff.mp hp'
      exact lastPosition_send s' [.waitQue position]
    | succ i =>
      have htold := ih hrest (w := w.modify sess (.send [.waitQue position])) (position + 1) i p s
        hi hp
      rw [htold]
      congr 1
      omega

/-! ## Out of the queue -/

theorem Listed.nodup_values (h : Listed w) : w.m_sessions.values.Nodup := by
  refine List.Nodup.map_on (fun x hx y hy heq => ?_) (w.m_sessions.sorted.imp fun hlt heq => ?_)
  · have hx' := mem_entries.mp hx
    have hy' := mem_entries.mp hy
    rw [← heq] at hy'
    exact Prod.ext (h.account_unique hx' hy') heq
  · exact absurd (congrArg Prod.fst heq) (ne_of_lt hlt)

theorem Listed.staying_le (h : Listed w) (ha : w.m_sessions.find? a = some sess) :
    w.staying sess ≤
      if sess ∈ w.m_QueuedPlayer then w.GetActiveSessionCount else w.GetActiveSessionCount - 1 := by
  let others := w.m_sessions.values.filter fun p => p ≠ sess ∧ w.isInQueue p = false
  let gone := if sess ∈ w.m_QueuedPlayer then [] else [sess]
  have hothers : ∀ p ∈ others, p ∉ w.m_QueuedPlayer ∧ p ≠ sess := by
    intro p hp
    have hp' := of_decide_eq_true (List.mem_filter.mp hp).2
    refine ⟨fun hqueue => ?_, hp'.1⟩
    obtain ⟨a, htag, -⟩ := h.current p hqueue
    rw [isInQueue_eq, htag] at hp'
    cases hp'.2
  have hgone : ∀ p ∈ gone, p = sess ∧ p ∉ w.m_QueuedPlayer := by
    intro p hp
    by_cases hsess : sess ∈ w.m_QueuedPlayer
    · rw [show gone = [] from if_pos hsess] at hp
      cases hp
    · rw [show gone = [sess] from if_neg hsess, List.mem_singleton] at hp
      exact ⟨hp, hp ▸ hsess⟩
  have hnodup : (w.m_QueuedPlayer ++ (others ++ gone)).Nodup := by
    refine List.Nodup.append h.nodup (List.Nodup.append (h.nodup_values.filter _) ?_ ?_) ?_
    · by_cases hsess : sess ∈ w.m_QueuedPlayer
      · rw [show gone = [] from if_pos hsess]
        exact List.nodup_nil
      · rw [show gone = [sess] from if_neg hsess]
        exact List.nodup_singleton sess
    · intro p hp hp'
      exact (hothers p hp).2 (hgone p hp').1
    · intro p hp hp'
      rcases List.mem_append.mp hp' with hp' | hp'
      · exact (hothers p hp').1 hp
      · exact (hgone p hp').2 hp
  have hsubset : w.m_QueuedPlayer ++ (others ++ gone) ⊆ w.m_sessions.values := by
    intro p hp
    rcases List.mem_append.mp hp with hp | hp
    · obtain ⟨a, -, hcurrent⟩ := h.current p hp
      exact mem_values.mpr ⟨a, hcurrent⟩
    · rcases List.mem_append.mp hp with hp | hp
      · exact (List.mem_filter.mp hp).1
      · rw [(hgone p hp).1]
        exact mem_values.mpr ⟨a, ha⟩
  have hlength := (List.subperm_of_subset hnodup hsubset).length_le
  have hvalues : w.m_sessions.values.length = w.m_sessions.size := List.length_map _
  have hstaying : w.staying sess = others.length := List.countP_eq_length_filter
  rw [List.length_append, List.length_append, hvalues] at hlength
  rw [hstaying, GetActiveSessionCount]
  by_cases hsess : sess ∈ w.m_QueuedPlayer
  · rw [if_pos hsess]
    omega
  · rw [show gone = [sess] from if_neg hsess, List.length_singleton] at hlength
    rw [if_neg hsess]
    omega

variable (w sess) in
theorem takeOut_fields :
    (w.takeOut sess).m_sessions = w.m_sessions ∧ (w.takeOut sess).m_playerLimit = w.m_playerLimit ∧
      (w.takeOut sess).m_QueuedPlayer = w.m_QueuedPlayer.erase sess := by
  obtain ⟨hsessions, hqueue, hlimit, -⟩ := modify_fields w sess (.setInQueue false)
  unfold takeOut
  split
  · exact ⟨hsessions, hlimit, congrArg (List.erase · sess) hqueue⟩
  · rename_i hsess
    exact ⟨rfl, rfl, (List.erase_of_not_mem hsess).symm⟩

theorem live_takeOut_of_ne (h : p ≠ sess) : (w.takeOut sess).live.find? p = w.live.find? p := by
  unfold takeOut
  split
  · exact live_modify_of_ne _ h
  · rfl

theorem Listed.takeOut (h : Listed w) (sess : Address) : Listed (w.takeOut sess) := by
  unfold World.takeOut
  split
  · rename_i hsess
    have hfields := modify_fields w sess (.setInQueue false)
    refine (h.leave (f := .setInQueue false) (fun s => ⟨rfl, rfl⟩) (e := .left sess)
      (if_pos hsess) rfl).congr rfl (fun _ => rfl) ?_ ?_
    · dsimp only
      rw [hfields.2.1]
    · dsimp only
      rw [hfields.2.2.2]
  · exact h

theorem Listed.acceptFirst (h : Listed w) {rest : List Address} {staying : ℕ}
    (hqueue : w.m_QueuedPlayer = sess :: rest)
    (hroom : w.m_playerLimit = 0 ∨ staying < w.m_playerLimit) :
    Listed (w.acceptFirst sess staying) := by
  have hfields := modify_fields w sess .accept
  have herase : w.m_QueuedPlayer.erase sess = rest := by
    rw [hqueue, List.erase_cons_head]
  have happly : (QueueEvent.admitted sess staying w.m_playerLimit).apply w.m_QueuedPlayer =
      some (w.m_QueuedPlayer.erase sess) := by
    rw [herase, hqueue]
    exact if_pos ⟨rfl, hroom⟩
  refine (h.leave (f := .accept) (fun s => ⟨rfl, rfl⟩) happly rfl).congr rfl (fun _ => rfl) ?_ ?_
  · dsimp only [World.acceptFirst]
    rw [hfields.2.1, herase, hqueue, List.tail_cons]
  · dsimp only [World.acceptFirst]
    rw [hfields.2.2.2, hfields.2.2.1]

theorem Listed.sendPositions (h : Listed w) (queue : List Address) (position : ℕ) :
    Listed (w.sendPositions queue position) :=
  have hfields := sendPositions_fields (w := w) queue position
  h.congr hfields.1 (fun _ => congrArg (OrderedMap.find? · _) hfields.2.1) hfields.2.2.1
    hfields.2.2.2.2

structure Sound (w : World) : Prop where
  listed : Listed w
  told : Told w w.m_QueuedPlayer 1

/-- What removing a session from the queue does not change. -/
structure Removed (w : World) (sess : Address) (w' : World) : Prop where
  sound : Sound w'
  sessions : w'.m_sessions = w.m_sessions
  gone : sess ∉ w'.m_QueuedPlayer
  tag : ∀ p ∉ w.m_QueuedPlayer, w'.tag p = w.tag p

theorem told_takeOut (h : Sound w) (sess : Address) :
    Told ((w.takeOut sess).sendPositions
        ((w.takeOut sess).m_QueuedPlayer.drop (w.m_QueuedPlayer.idxOf sess))
        (w.m_QueuedPlayer.idxOf sess + 1))
      (w.takeOut sess).m_QueuedPlayer 1 := by
  intro i p s hi hp
  have hnodup := (h.listed.takeOut sess).nodup
  have hqueue := (takeOut_fields w sess).2.2
  rw [hqueue] at hnodup hi hp
  have hpmem := List.mem_of_getElem? hi
  by_cases hlt : i < w.m_QueuedPlayer.idxOf sess
  · -- in front of the session nothing changes
    have hne : p ≠ sess := (h.listed.nodup.mem_erase_iff.mp hpmem).1
    have hnot : p ∉ (w.m_QueuedPlayer.erase sess).drop (w.m_QueuedPlayer.idxOf sess) := by
      intro hdrop
      obtain ⟨j, hj⟩ := List.mem_iff_getElem?.mp hdrop
      rw [List.getElem?_drop] at hj
      have hsame := (List.getElem?_inj (List.getElem?_eq_some_iff.mp hi).1 hnodup).mp
        (hi.trans hj.symm)
      omega
    rw [live_sendPositions_of_not_mem _ hnot, live_takeOut_of_ne hne] at hp
    rw [List.erase_eq_eraseIdx_of_idxOf rfl, List.getElem?_eraseIdx_of_lt hlt] at hi
    exact h.told i p s hi hp
  · obtain ⟨j, rfl⟩ := Nat.exists_eq_add_of_le (Nat.le_of_not_lt hlt)
    rw [← List.getElem?_drop] at hi
    have htold := told_sendPositions (w := w.takeOut sess)
      (hnodup.sublist (List.drop_sublist _ _)) (w.m_QueuedPlayer.idxOf sess + 1) j p s hi hp
    rw [htold]
    congr 1
    omega

theorem tag_takeOut_of_not_mem (hp : p ∉ w.m_QueuedPlayer) : (w.takeOut sess).tag p = w.tag p := by
  unfold takeOut
  split
  · rename_i hsess
    have hne : p ≠ sess := fun heq => hp (heq ▸ hsess)
    exact congrArg (Option.map _) (live_modify_of_ne _ hne)
  · rfl

theorem RemoveQueuedPlayer_spec (h : Sound w)
    (ha : w.m_sessions.find? a = some sess) : Removed w sess (w.RemoveQueuedPlayer sess).1 := by
  obtain ⟨hsessions, hlimit, hqueue⟩ := takeOut_fields w sess
  have hlisted : Listed (w.takeOut sess) := h.listed.takeOut sess
  have hgone : sess ∉ (w.takeOut sess).m_QueuedPlayer := by
    rw [hqueue]
    exact h.listed.nodup.not_mem_erase
  have htag : ∀ p ∉ w.m_QueuedPlayer, (w.takeOut sess).tag p = w.tag p :=
    fun p => tag_takeOut_of_not_mem
  have htold := told_takeOut h sess
  unfold RemoveQueuedPlayer
  dsimp only
  cases hrest : (w.takeOut sess).m_QueuedPlayer with
  | nil =>
    refine ⟨⟨hlisted, ?_⟩, hsessions, hgone, htag⟩
    rw [hrest]
    intro i p s hi
    rw [List.getElem?_nil] at hi
    cases hi
  | cons popSess rest =>
    dsimp only
    have hstaying := h.listed.staying_le ha
    by_cases hroom : (w.takeOut sess).m_playerLimit = 0 ∨
        (if sess ∈ w.m_QueuedPlayer then w.GetActiveSessionCount
          else w.GetActiveSessionCount - 1) < (w.takeOut sess).m_playerLimit
    · -- the first of the queue is admitted
      rw [if_pos hroom]
      have haccepted := hlisted.acceptFirst hrest (hroom.imp_right (hstaying.trans_lt ·))
      obtain ⟨hsessions', hqueue', -, -⟩ := modify_fields (w.takeOut sess) popSess .accept
      obtain ⟨htag₂, hsessions₂, hqueue₂, -, -⟩ := sendPositions_fields
        (w := (w.takeOut sess).acceptFirst popSess (w.staying sess)) rest 1
      have htail :
          ((w.takeOut sess).acceptFirst popSess (w.staying sess)).m_QueuedPlayer = rest := by
        dsimp only [acceptFirst]
        rw [hqueue', hrest, List.tail_cons]
      have hnodup : (popSess :: rest).Nodup := hrest ▸ hlisted.nodup
      refine ⟨⟨haccepted.sendPositions rest 1, ?_⟩, hsessions₂.trans (hsessions'.trans hsessions),
        ?_, fun p hp => ?_⟩
      · rw [hqueue₂, htail]
        exact told_sendPositions (List.nodup_cons.mp hnodup).2 1
      · rw [hqueue₂, htail]
        exact fun hrest' => hgone (hrest ▸ List.mem_cons_of_mem _ hrest')
      · have hpop : popSess ∈ w.m_QueuedPlayer := by
          have hmem : popSess ∈ w.m_QueuedPlayer.erase sess := by
            rw [← hqueue, hrest]
            exact List.mem_cons_self
          exact List.mem_of_mem_erase hmem
        have hne : p ≠ popSess := fun heq => hp (heq ▸ hpop)
        rw [htag₂, ← htag p hp]
        exact congrArg (Option.map _) (live_modify_of_ne _ hne)
    · -- those behind the session move up
      rw [if_neg hroom]
      obtain ⟨htag₂, hsessions₂, hqueue₂, -, -⟩ := sendPositions_fields (w := w.takeOut sess)
        ((w.takeOut sess).m_QueuedPlayer.drop (w.m_QueuedPlayer.idxOf sess))
        (w.m_QueuedPlayer.idxOf sess + 1)
      rw [hrest] at htag₂ hsessions₂ hqueue₂ htold hgone
      refine ⟨⟨hlisted.sendPositions _ _, ?_⟩, hsessions₂.trans hsessions, ?_, fun p hp => ?_⟩
      · rw [hqueue₂]
        exact htold
      · rw [hqueue₂]
        exact hgone
      · rw [htag₂]
        exact htag p hp

/-! ## Sessions that come and go -/

theorem Sound.modify (h : Sound w) (sess : Address)
    (hf : ∀ s, (f s).accountId = s.accountId ∧ (f s).m_inQueue = s.m_inQueue)
    (hsent : sess ∈ w.m_QueuedPlayer → ∀ s, (f s).sent = s.sent) : Sound (w.modify sess f) := by
  refine ⟨h.listed.modify hf, fun i p s hi hp => ?_⟩
  rw [(modify_fields w sess f).2.1] at hi
  rw [live_modify] at hp
  split at hp
  · rename_i hsame
    obtain ⟨s', hs', rfl⟩ := Option.map_eq_some_iff.mp hp
    have hposition := h.told i p s' hi (hsame ▸ hs')
    rw [WorldSession.lastPosition, hsent (hsame ▸ List.mem_of_getElem? hi)]
    exact hposition
  · exact h.told i p s hi hp

theorem Sound.congr (h : Sound w) {w' : World} (hlive : w'.live = w.live)
    (hsessions : ∀ a, w'.m_sessions.find? a = w.m_sessions.find? a)
    (hqueue : w'.m_QueuedPlayer = w.m_QueuedPlayer) (hhistory : w'.history = w.history) :
    Sound w' := by
  have htag : w'.tag = w.tag := by
    unfold tag
    rw [hlive]
  refine ⟨h.listed.congr htag hsessions hqueue hhistory, ?_⟩
  unfold Told
  rw [hlive, hqueue]
  exact h.told

theorem Sound.join (h : Sound w) (ha : w.m_sessions.find? a = some sess)
    (hsess : sess ∉ w.m_QueuedPlayer) : Sound (w.AddQueuedPlayer sess) := by
  obtain ⟨hsessions, hqueue, -, hhistory⟩ := modify_fields w sess (.setInQueue true)
  let w₁ : World := { w.modify sess (.setInQueue true) with
    m_QueuedPlayer := w.m_QueuedPlayer ++ [sess]
    history := w.history ++ [QueueEvent.joined sess] }
  have hw₁ : w.AddQueuedPlayer sess =
      w₁.modify sess (.send [.authWaitQueue (w₁.m_QueuedPlayer.idxOf sess + 1)]) := by
    unfold AddQueuedPlayer
    dsimp only
    rw [hqueue, hhistory]
  have htag : ∀ p, w₁.tag p =
      if p = sess then (w.tag sess).map fun t => (t.1, true) else w.tag p :=
    fun p => tag_modify_flag fun s => ⟨rfl, rfl⟩
  have hlisted : Listed w₁ := by
    refine ⟨?_, fun p a b hp => ?_, fun p hp => ?_, fun a p hp => ?_, ?_⟩
    · exact h.listed.nodup.append (List.nodup_singleton sess) fun p hp hp' =>
        hsess (List.mem_singleton.mp hp' ▸ hp)
    · rw [htag] at hp
      split at hp
      · rename_i hsame
        obtain ⟨t, -, ht⟩ := Option.map_eq_some_iff.mp hp
        obtain rfl : true = b := congrArg Prod.snd ht
        exact iff_of_true rfl (List.mem_append_right _ (List.mem_singleton.mpr hsame))
      · rename_i hne
        refine (h.listed.flag p a b hp).trans ⟨List.mem_append_left _, fun hp' => ?_⟩
        exact (List.mem_append.mp hp').resolve_right fun hp' => hne (List.mem_singleton.mp hp')
    · rw [htag]
      rcases List.mem_append.mp hp with hp | hp
      · have hne : p ≠ sess := fun heq => hsess (heq ▸ hp)
        rw [if_neg hne]
        obtain ⟨a, ha, hcurrent⟩ := h.listed.current p hp
        exact ⟨a, ha, (congrArg (OrderedMap.find? · a) hsessions).trans hcurrent⟩
      · rw [List.mem_singleton.mp hp, if_pos rfl]
        obtain ⟨b, hb⟩ := h.listed.mapped a sess ha
        rw [hb]
        exact ⟨a, rfl, (congrArg (OrderedMap.find? · a) hsessions).trans ha⟩
    · obtain ⟨b, hb⟩ := h.listed.mapped a p
        ((congrArg (OrderedMap.find? · a) hsessions).symm.trans hp)
      rw [htag]
      split
      · rename_i hsame
        rw [← hsame, hb]
        exact ⟨true, rfl⟩
      · exact ⟨b, hb⟩
    · change replay (w.history ++ [QueueEvent.joined sess]) = _
      rw [replay_append, h.listed.replayed]
      exact if_neg hsess
  rw [hw₁]
  refine ⟨hlisted.modify fun s => ⟨rfl, rfl⟩, fun i p s hi hp => ?_⟩
  rw [(modify_fields w₁ sess _).2.1] at hi
  change (w.m_QueuedPlayer ++ [sess])[i]? = some p at hi
  by_cases hlt : i < w.m_QueuedPlayer.length
  · rw [List.getElem?_append_left hlt] at hi
    have hne : p ≠ sess := fun heq => hsess (heq ▸ List.mem_of_getElem? hi)
    rw [live_modify_of_ne _ hne] at hp
    exact h.told i p s hi ((live_modify_of_ne _ hne).symm.trans hp)
  · rw [List.getElem?_append_right (Nat.le_of_not_lt hlt)] at hi
    rw [List.getElem?_singleton] at hi
    obtain ⟨hzero, hsame⟩ := Option.ite_none_right_eq_some.mp hi
    cases hsame
    rw [live_modify, if_pos rfl] at hp
    obtain ⟨s', -, rfl⟩ := Option.map_eq_some_iff.mp hp
    have hidx : w₁.m_QueuedPlayer.idxOf sess = i := by
      change (w.m_QueuedPlayer ++ [sess]).idxOf sess = i
      rw [List.idxOf_append, if_neg hsess, List.idxOf_cons_self]
      omega
    rw [lastPosition_send, hidx]
    exact congrArg some (Nat.add_comm i 1)

theorem Sound.forget (h : Sound w) (ha : w.m_sessions.find? a = some sess)
    (hsess : sess ∉ w.m_QueuedPlayer) : Sound { w with m_sessions := w.m_sessions.erase a } := by
  refine ⟨⟨h.listed.nodup, h.listed.flag, fun p hp => ?_, fun b p hp => ?_, h.listed.replayed⟩,
    h.told⟩
  · obtain ⟨b, hb, hcurrent⟩ := h.listed.current p hp
    refine ⟨b, hb, (find?_erase_of_ne _ ?_).trans hcurrent⟩
    rintro rfl
    exact hsess (Option.some.inj (hcurrent.symm.trans ha) ▸ hp)
  · have hp' := (find?_erase w.m_sessions a b).symm.trans hp
    split at hp'
    · cases hp'
    · exact h.listed.mapped b p hp'

theorem Sound.delete (h : Sound w) {sess : Address}
    (hsess : ∀ a, w.m_sessions.find? a ≠ some sess) :
    Sound (w.delete sess) := by
  have hlive : ∀ p ≠ sess, (w.delete sess).live.find? p = w.live.find? p :=
    fun p hne => find?_erase_of_ne _ hne
  have htag : ∀ p ≠ sess, (w.delete sess).tag p = w.tag p :=
    fun p hne => congrArg (Option.map _) (hlive p hne)
  have hne : ∀ p ∈ w.m_QueuedPlayer, p ≠ sess := by
    rintro _ hp rfl
    obtain ⟨b, -, hcurrent⟩ := h.listed.current _ hp
    exact hsess b hcurrent
  refine ⟨⟨h.listed.nodup, fun p b t hp => ?_, fun p hp => ?_, fun b p hp => ?_, h.listed.replayed⟩,
    fun i p s hi hp => ?_⟩
  · by_cases hsame : p = sess
    · obtain ⟨s, hs, -⟩ := tag_eq_some.mp hp
      rw [hsame] at hs
      exact absurd hs (by simp [World.delete])
    · rw [htag p hsame] at hp
      exact h.listed.flag p b t hp
  · obtain ⟨b, hb, hcurrent⟩ := h.listed.current p hp
    exact ⟨b, (htag p (hne p hp)).trans hb, hcurrent⟩
  · rw [htag p fun heq => hsess b (heq ▸ hp)]
    exact h.listed.mapped b p hp
  · exact h.told i p s hi ((hlive p (hne p (List.mem_of_getElem? hi))).symm.trans hp)

theorem Sound.insert (h : Sound w) (ha : w.m_sessions.find? a = none) {b : Bool}
    (hsess : w.tag sess = some (a, b)) :
    Sound { w with m_sessions := w.m_sessions.set a sess } := by
  refine ⟨⟨h.listed.nodup, h.listed.flag, fun p hp => ?_, fun c p hp => ?_, h.listed.replayed⟩,
    h.told⟩
  · obtain ⟨c, hc, hcurrent⟩ := h.listed.current p hp
    refine ⟨c, hc, (find?_set_of_ne _ _ ?_).trans hcurrent⟩
    rintro rfl
    rw [ha] at hcurrent
    cases hcurrent
  · have hp' := (find?_set w.m_sessions a sess c).symm.trans hp
    split at hp'
    · rename_i hca
      cases hp'
      exact ⟨b, hca ▸ hsess⟩
    · exact h.listed.mapped c p hp'

theorem Sound.make (h : Sound w) (hsess : w.live.find? sess = none) (s : WorldSession)
    (hs : s.m_inQueue = false) : Sound { w with live := w.live.set sess s } := by
  have hlive : ∀ p ≠ sess, (w.live.set sess s).find? p = w.live.find? p :=
    fun p hne => find?_set_of_ne _ _ hne
  have htag : ∀ p ≠ sess, World.tag { w with live := w.live.set sess s } p = w.tag p :=
    fun p hne => congrArg (Option.map _) (hlive p hne)
  have hne : ∀ p, w.live.find? p ≠ none → p ≠ sess := fun p hp heq => hp (heq ▸ hsess)
  have htagged : ∀ {p t}, w.tag p = some t → p ≠ sess := by
    intro p t hp
    obtain ⟨s', hs', -⟩ := tag_eq_some.mp hp
    exact hne p (by simp [hs'])
  have hqueued : ∀ p ∈ w.m_QueuedPlayer, p ≠ sess := by
    intro p hp
    obtain ⟨b, hb, -⟩ := h.listed.current p hp
    exact htagged hb
  refine ⟨⟨h.listed.nodup, fun p b t hp => ?_, fun p hp => ?_, fun b p hp => ?_, h.listed.replayed⟩,
    fun i p s' hi hp => ?_⟩
  · by_cases hsame : p = sess
    · obtain ⟨s', hs', -, rfl⟩ := tag_eq_some.mp hp
      rw [hsame, find?_set_self] at hs'
      cases hs'
      rw [hs]
      exact iff_of_false Bool.false_ne_true fun hp => hqueued p hp hsame
    · rw [htag p hsame] at hp
      exact h.listed.flag p b t hp
  · obtain ⟨b, hb, hcurrent⟩ := h.listed.current p hp
    exact ⟨b, (htag p (hqueued p hp)).trans hb, hcurrent⟩
  · obtain ⟨t, ht⟩ := h.listed.mapped b p hp
    exact ⟨t, (htag p (htagged ht)).trans ht⟩
  · exact h.told i p s' hi ((hlive p (hqueued p (List.mem_of_getElem? hi))).symm.trans hp)

/-! ## New sessions -/

theorem live_newAddress (w : World) (place : Address) :
    w.live.find? (w.newAddress place) = none := by
  rw [← contains_eq_false_iff]
  unfold newAddress
  split
  · rw [← Bool.not_eq_true, contains_iff_mem_keys]
    intro hmem
    have hle := List.single_le_sum (fun _ _ => Nat.zero_le _) _ hmem
    omega
  · rename_i hfree
    rwa [Bool.not_eq_true] at hfree

theorem HasRecentlyDisconnected_fields (w : World) (c : Clock) (a : AccountId) :
    ∃ m, (w.HasRecentlyDisconnected c a).1 = { w with m_disconnects := m } := by
  unfold HasRecentlyDisconnected
  split
  · exact ⟨_, rfl⟩
  · exact ⟨_, rfl⟩

theorem Sound.admitOrQueue (h : Sound w) (a : Arrival)
    (ha : w.m_sessions.find? a.accountId = some sess) (hsess : sess ∉ w.m_QueuedPlayer)
    (decreaseSession : Bool) : Sound (w.admitOrQueue a sess decreaseSession) := by
  have hadmit : ∀ {w' : World}, Sound w' → sess ∉ w'.m_QueuedPlayer →
      Sound (w'.modify sess (.send [.authOk, .addonsInfo, .clientCacheVersion,
        .tutorialsData])).UpdateMaxSessionCounters := by
    intro w' h' hsess'
    have hsent := h'.modify sess (f := .send [.authOk, .addonsInfo, .clientCacheVersion,
      .tutorialsData]) (fun s => ⟨rfl, rfl⟩) fun hmem => absurd hmem hsess'
    exact hsent.congr rfl (fun _ => rfl) rfl rfl
  obtain ⟨m, hm⟩ := w.HasRecentlyDisconnected_fields a.clock a.accountId
  have hforgot : Sound { w with m_disconnects := m } := h.congr rfl (fun _ => rfl) rfl rfl
  unfold World.admitOrQueue
  dsimp only
  generalize (if decreaseSession = true then w.GetActiveAndQueuedSessionCount - 1
    else w.GetActiveAndQueuedSessionCount) = Sessions
  split
  · rw [hm]
    split
    · exact hadmit hforgot hsess
    · exact (hforgot.join ha hsess).congr rfl (fun _ => rfl) rfl rfl
  · exact hadmit h hsess

theorem RemoveSession_spec (h : Sound w) (a : AccountId) (playerLoading : Bool) :
    Sound (w.RemoveSession a playerLoading).1 ∧ (w.RemoveSession a playerLoading).1.tag = w.tag ∧
      (w.RemoveSession a playerLoading).1.m_sessions = w.m_sessions := by
  unfold RemoveSession
  split
  · exact ⟨h, rfl, rfl⟩
  · rename_i sess _
    split
    · exact ⟨h, rfl, rfl⟩
    · exact ⟨h.modify sess (fun s => ⟨rfl, rfl⟩) fun _ s => rfl, tag_modify fun s => ⟨rfl, rfl⟩,
        (modify_fields w sess .kickPlayer).1⟩

theorem Sound.takePlace (h : Sound w) (hsess : w.tag sess = some (a, false))
    (hunlisted : ∀ b, w.m_sessions.find? b ≠ some sess) :
    Sound { (w.removeOld a).1 with m_sessions := (w.removeOld a).1.m_sessions.set a sess } ∧
      sess ∉ (w.removeOld a).1.m_QueuedPlayer := by
  unfold removeOld
  cases hold : w.m_sessions.find? a with
  | none =>
    refine ⟨h.insert hold hsess, fun hmem => ?_⟩
    exact Bool.false_ne_true ((h.listed.flag _ _ _ hsess).mpr hmem)
  | some old =>
    dsimp only
    have hne : sess ≠ old := fun heq => hunlisted a (heq ▸ hold)
    have hremoved := RemoveQueuedPlayer_spec h hold
    generalize (w.RemoveQueuedPlayer old).1 = w₁ at hremoved
    have hqueued : sess ∉ w.m_QueuedPlayer :=
      fun hmem => Bool.false_ne_true ((h.listed.flag _ _ _ hsess).mpr hmem)
    have htag : w₁.tag sess = some (a, false) := (hremoved.tag sess hqueued).trans hsess
    have hold' : w₁.m_sessions.find? a = some old := by rw [hremoved.sessions, hold]
    have hforgot := hremoved.sound.forget hold' hremoved.gone
    have hdeleted : Sound (World.delete { w₁ with m_sessions := w₁.m_sessions.erase a } old) := by
      refine hforgot.delete fun b hb => ?_
      have hb' := (find?_erase w₁.m_sessions a b).symm.trans hb
      split at hb'
      · cases hb'
      · rename_i hba
        exact hba (hremoved.sound.listed.account_unique hb' hold')
    have htag' : World.tag (World.delete { w₁ with m_sessions := w₁.m_sessions.erase a } old) sess =
        some (a, false) :=
      (congrArg (Option.map _) (find?_erase_of_ne _ hne)).trans htag
    have hset := hdeleted.insert (find?_erase_self _ _) htag'
    refine ⟨hset.congr rfl (fun b => ?_) rfl rfl, fun hmem => ?_⟩
    · change (w₁.m_sessions.set a sess).find? b = ((w₁.m_sessions.erase a).set a sess).find? b
      rw [find?_set, find?_set, find?_erase]
      split <;> rfl
    · exact Bool.false_ne_true ((hremoved.sound.listed.flag _ _ _ htag).mpr hmem)

/-- **`AddSession_` keeps the queue sound.** -/
theorem Sound.addSession (h : Sound w) (a : Arrival) : Sound (w.AddSession_ a) := by
  have hfree := w.live_newAddress a.place
  generalize hsess : w.newAddress a.place = sess at hfree
  have hunlisted : ∀ b, w.m_sessions.find? b ≠ some sess := by
    intro b hb
    obtain ⟨t, ht⟩ := h.listed.mapped b sess hb
    obtain ⟨s, hs, -⟩ := tag_eq_some.mp ht
    rw [hfree] at hs
    cases hs
  have hmade := h.make hfree (.new a.accountId a.security) rfl
  have htag : World.tag { w with live := w.live.set sess (.new a.accountId a.security) } sess =
      some (a.accountId, false) :=
    tag_eq_some.mpr ⟨_, find?_set_self _ _ _, rfl, rfl⟩
  obtain ⟨hkicked, htag', hsessions⟩ := RemoveSession_spec hmade a.accountId a.playerLoading
  rw [← htag'] at htag
  unfold AddSession_
  dsimp only
  rw [hsess]
  generalize World.RemoveSession _ a.accountId a.playerLoading = r at hkicked htag hsessions
  have hunlisted' : ∀ b, r.1.m_sessions.find? b ≠ some sess := by
    rw [hsessions]
    exact hunlisted
  split
  · obtain ⟨hplaced, hqueued⟩ := hkicked.takePlace htag hunlisted'
    exact hplaced.admitOrQueue a (find?_set_self _ _ _) hqueued _
  · have hclosed := hkicked.modify sess (f := .kickPlayer) (fun s => ⟨rfl, rfl⟩)
      fun _ s => rfl
    refine hclosed.delete fun b => ?_
    rw [(modify_fields r.1 sess .kickPlayer).1]
    exact hunlisted' b

/-! ## Sessions that end -/

theorem noteDisconnect_fields (w : World) (c : Clock) (sess : Address) (queued : Bool) :
    ∃ m, w.noteDisconnect c sess queued = { w with m_disconnects := m } := by
  unfold noteDisconnect
  split
  · split
    · exact ⟨_, rfl⟩
    · exact ⟨_, rfl⟩
  · exact ⟨_, rfl⟩

theorem Sound.endSession (h : Sound w) (c : Clock)
    (ha : w.m_sessions.find? a = some sess) : Sound (w.endSession c a sess) := by
  have hremoved := RemoveQueuedPlayer_spec h ha
  unfold World.endSession
  dsimp only
  generalize hr : w.RemoveQueuedPlayer sess = r at hremoved
  have hsessions : r.1.m_sessions.find? a = some sess := by rw [hremoved.sessions, ha]
  obtain ⟨m, hm⟩ := r.1.noteDisconnect_fields c sess r.2
  rw [hm]
  have hagain := RemoveQueuedPlayer_spec (w := { r.1 with m_disconnects := m })
    (hremoved.sound.congr rfl (fun _ => rfl) rfl rfl) hsessions
  generalize World.RemoveQueuedPlayer _ sess = r' at hagain
  have hsessions' : r'.1.m_sessions.find? a = some sess := by
    rw [hagain.sessions]
    exact hsessions
  refine (hagain.sound.forget hsessions' hagain.gone).delete fun b hb => ?_
  have hb' := (find?_erase r'.1.m_sessions a b).symm.trans hb
  split at hb'
  · cases hb'
  · rename_i hba
    exact hba (hagain.sound.listed.account_unique hb' hsessions')

theorem Sound.updateSession (h : Sound w) (c : Clock) (visit : AccountId × Bool) :
    Sound (w.updateSession c visit) := by
  unfold World.updateSession
  cases hsess : w.m_sessions.find? visit.1 with
  | none => exact h
  | some sess =>
    dsimp only
    split
    · exact h
    · exact h.endSession c hsess

theorem Sound.step (h : Sound w) (op : Op) : Sound (World.step w op) := by
  cases op with
  | addSession a => exact h.addSession a
  | updateSessions arrivals c visits =>
    refine foldl_invariant Sound (fun w visit _ h => h.updateSession c visit) ?_
    exact foldl_invariant Sound (fun w a _ h => h.addSession a) h
  | setPlayerAmountLimit limit => exact h.congr rfl (fun _ => rfl) rfl rfl

theorem sound_start (limit : ℕ) : Sound (start limit) where
  listed := {
    nodup := List.nodup_nil
    flag := fun p a b hp => by cases hp
    current := fun p hp => by cases hp
    mapped := fun a p hp => by cases hp
    replayed := rfl }
  told := by
    intro i p s hi
    change ([] : List Address)[i]? = some p at hi
    rw [List.getElem?_nil] at hi
    cases hi

theorem sound_run (limit : ℕ) (ops : List Op) : Sound (run World.step (start limit) ops) :=
  foldl_invariant Sound (fun _ op _ h => h.step op) (sound_start limit)

/-! ## The login queue -/

/-- **What holds of the login queue.** -/
structure QueueSound (w : World) : Prop where
  nodup : w.m_QueuedPlayer.Nodup
  /-- The sessions in the queue are those with the flag. -/
  flag : ∀ p s, w.live.find? p = some s → (p ∈ w.m_QueuedPlayer ↔ s.m_inQueue = true)
  /-- A session in the queue is not deleted, and it is the one of its account. -/
  current : ∀ p ∈ w.m_QueuedPlayer,
    ∃ s, w.live.find? p = some s ∧ w.m_sessions.find? s.accountId = some p
  /-- A session in the queue was last told its place. -/
  position : ∀ i p, w.m_QueuedPlayer[i]? = some p →
    ∃ s, w.live.find? p = some s ∧ s.lastPosition = some (i + 1)
  /-- The queue is what its history makes of an empty one. -/
  fifo : replay w.history = some w.m_QueuedPlayer

/-- **The login queue is sound after every run.** -/
theorem queueSound_run (limit : ℕ) (ops : List Op) :
    QueueSound (run World.step (start limit) ops) := by
  have h := sound_run limit ops
  generalize run World.step (start limit) ops = w at h
  have hlive : ∀ p ∈ w.m_QueuedPlayer,
      ∃ s, w.live.find? p = some s ∧ w.m_sessions.find? s.accountId = some p := by
    intro p hp
    obtain ⟨a, ha, hcurrent⟩ := h.listed.current p hp
    obtain ⟨s, hs, rfl, -⟩ := tag_eq_some.mp ha
    exact ⟨s, hs, hcurrent⟩
  refine ⟨h.listed.nodup, fun p s hs => ?_, hlive, fun i p hi => ?_, h.listed.replayed⟩
  · exact (h.listed.flag p _ _ (tag_eq_some.mpr ⟨s, hs, rfl, rfl⟩)).symm
  · obtain ⟨s, hs, -⟩ := hlive p (List.mem_of_getElem? hi)
    exact ⟨s, hs, (h.told i p s hi hs).trans (congrArg some (Nat.add_comm 1 i))⟩

/-- One session is allowed.  The second waits until the first ends. -/
example : (run World.step (start 1) [.addSession ⟨7, 1, 0, false, ⟨0, 0⟩⟩,
      .addSession ⟨8, 2, 0, false, ⟨0, 0⟩⟩, .updateSessions [] ⟨0, 0⟩ [(1, false)]]).history =
    [.joined 8, .admitted 8 0 1] := by
  decide +kernel

end World

end TeraCore.LoginQueue
