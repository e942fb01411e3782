import Mathlib.Tactic.Linarith
import TeraCore.Combat.ThreatLists

/-!
# Threat managers: the choice of a victim

The online references are gone through from the highest threat on.  A unit draws the creature away
from its current victim with more than 130 percent of its threat, or with more than 110 percent in
melee range.  Units that are immune, or that damage would set free, are a second choice.

The comparison goes astray in three ways.

* The list is sorted only if it was found to be dirty, and a loss of threat by another unit than
  the current victim does not make it dirty.
* A current victim that is a second choice, or is not to be attacked, still stands for comparison
  until the list comes to it.  It can be kept against a first choice, and a first choice that does
  not draw the creature away from it is passed over.
* That there is a second choice only is found out at the last reference, and only if that one is a
  second choice.

## Main results

* `scan_found`: the scan ends at the first candidate that decides
* `rightVictim_of_clear`: the right victim is chosen in every clear state that can be reached
* `mageKept`: a second choice is kept against a first choice
-/

namespace TeraCore.Combat

/-- Threat as an exact number. -/
def exactThreat : Threat ℚ where
  zero := 0
  add := (· + ·)
  sub := (· - ·)
  percent threat n := threat * n / 100
  times11 threat := 11 / 10 * threat
  times13 threat := 13 / 10 * threat
  lt a b := decide (a < b)
  le a b := decide (a ≤ b)
  ne a b := decide (a ≠ b)

/-- **What happens to a manager**: an operation; or it is told that the order of its list may have
changed, which is how a reset of all threat ends. -/
inductive Act where
  | op (op : World ℚ × Op ℚ)
  | setDirty

/-- **A step of a manager**, by an operation or from outside. -/
def act (m : ThreatManager ℚ) : Act → Option (ThreatManager ℚ)
  | .op op => step exactThreat m op
  | .setDirty => some { m with iDirty := true }

namespace ThreatManager

variable (w : World ℚ) (m : ThreatManager ℚ)

def threat (a : ℕ) : ℚ := (m.reference a).iThreat

/-- The unit is immune, or damage would set it free. -/
def secondChoice (a : ℕ) : Bool := (m.reference a).iRefTo.any w.isSecondChoice

/-- The unit may be attacked, and is not a second choice. -/
def FirstChoice (a : ℕ) : Prop := m.attackable w a = true ∧ m.secondChoice w a = false

/-- **A unit draws the creature away from its current victim.** -/
def Claims (c x : ℕ) : Prop :=
  13 / 10 * m.threat c < m.threat x ∨
    (11 / 10 * m.threat c < m.threat x ∧
      (m.reference x).iRefTo.any w.isWithinMeleeRange = true)

/-- Each reference has no more threat than the ones before it. -/
def Descending (l : List ℕ) : Prop := l.Pairwise fun a b => m.threat b ≤ m.threat a

instance : DecidablePred (m.FirstChoice w) := fun _ => inferInstanceAs (Decidable (_ ∧ _))

instance (c x : ℕ) : Decidable (m.Claims w c x) := inferInstanceAs (Decidable (_ ∨ _))

/-- **The right victim**, where a list is gone through that is in order.  There is none only if no
unit may be attacked; the victim may be; it is a second choice only if all are; it takes the place
of a first choice only if it has a claim; and no first choice with more threat is passed over,
except for a current victim that is a first choice itself, from which it has no claim. -/
structure RightVictim (l : List ℕ) (current victim : Option ℕ) : Prop where
  descending : m.Descending l
  noVictim : victim = none → ∀ a ∈ l, m.attackable w a = false
  attackable : ∀ a, victim = some a → a ∈ l ∧ m.attackable w a = true
  second : ∀ a, victim = some a → m.secondChoice w a = true →
    ∀ x ∈ l, m.attackable w x = true → m.secondChoice w x = true
  margin : ∀ a c, victim = some a → current = some c → m.FirstChoice w c → a ≠ c → m.Claims w c a
  highest : ∀ a, victim = some a → ∀ x ∈ l, m.FirstChoice w x → m.threat a < m.threat x →
    ∃ c, current = some c ∧ m.FirstChoice w c ∧ ¬m.Claims w c x

/-- The references in the order of their threat. -/
def standing : List ℕ :=
  m.iThreatContainer.mergeSort fun a b => decide (m.threat b ≤ m.threat a)

/-- **The current victim stands in nobody's way.**  It matters where it is no first choice itself.
Where there is a first choice, the list comes to the current victim before it, and forgets it; or
it is not to be attacked, and its threat is high; or a first choice of the highest threat draws the
creature away from it.  Where there is none, the last reference is a second choice, and the current
victim may be attacked; or is forgotten; or some other unit decides. -/
structure Unhindered (l : List ℕ) (current : Option ℕ) : Prop where
  first : ∀ c, current = some c → ¬m.FirstChoice w c → (∃ x ∈ l, m.FirstChoice w x) →
    (m.secondChoice w c = true ∧ ∀ x ∈ l.takeWhile (· ≠ c), ¬m.FirstChoice w x) ∨
    (m.attackable w c = false ∧ ∀ x ∈ l, m.FirstChoice w x → m.threat x ≤ 11 / 10 * m.threat c) ∨
    ∃ y ∈ l, m.FirstChoice w y ∧ m.Claims w c y ∧
      ∀ x ∈ l, m.FirstChoice w x → m.threat x ≤ m.threat y
  last : (∀ x ∈ l, ¬m.FirstChoice w x) → (∃ x ∈ l, m.attackable w x = true) →
    (∀ a, l.getLast? = some a → m.secondChoice w a = true) ∧
    ∀ c, current = some c → m.attackable w c = true ∨
      (m.secondChoice w c = true ∧ l.getLast? ≠ some c) ∨
      ∃ x ∈ l, m.attackable w x = true ∧ (m.threat x ≤ 11 / 10 * m.threat c ∨ m.Claims w c x)

/-- **A clear state**: the list is dirty or in order, and the current victim stands in nobody's
way. -/
structure Clear : Prop where
  descending : m.iDirty = true ∨ m.Descending m.iThreatContainer
  unhindered : m.Unhindered w m.standing m.iCurrentVictim

/-- A reference that the scan looks at: in the first pass a second choice is left out. -/
def Candidate (noPriorityTargetFound : Bool) (a : ℕ) : Prop :=
  m.attackable w a = true ∧ (noPriorityTargetFound = true ∨ m.secondChoice w a = false)

/-- A candidate ends the scan: there is no current victim to compare it with; it is the current
victim; or it has too little threat to draw the creature away from it, or enough. -/
def Decides (current : Option ℕ) (y : ℕ) : Prop :=
  ∀ c, current = some c → y = c ∨ m.threat y ≤ 11 / 10 * m.threat c ∨ m.Claims w c y

/-- Who is found where a candidate ends the scan. -/
def outcome (current : Option ℕ) (y : ℕ) : ℕ :=
  match current with
  | none => y
  | some c => if m.threat y ≤ 11 / 10 * m.threat c ∧ m.attackable w c = true then c else y

/-! ## The scan -/

variable {w m} {noPriorityTargetFound : Bool} {current : Option ℕ} {a y : ℕ}
  {rest pre post : List ℕ}

theorem candidate_false : m.Candidate w false y ↔ m.FirstChoice w y := by
  simp [Candidate, FirstChoice]

theorem candidate_true : m.Candidate w true y ↔ m.attackable w y = true := by
  simp [Candidate]

theorem linked_of_candidate (h : m.Candidate w noPriorityTargetFound a) :
    (m.reference a).iRefTo ≠ none := by
  intro hnone
  have hattack := h.1
  rw [attackable, hnone] at hattack
  cases hattack

theorem scan_skip (hlink : (m.reference a).iRefTo ≠ none)
    (h : ¬m.Candidate w noPriorityTargetFound a) (hrest : rest ≠ []) :
    m.scan exactThreat w noPriorityTargetFound current (a :: rest) =
      m.scan exactThreat w noPriorityTargetFound
        (if noPriorityTargetFound = false ∧ m.secondChoice w a = true ∧ current = some a then none
          else current) rest := by
  obtain ⟨target, htarget⟩ := Option.ne_none_iff_exists'.mp hlink
  have hattack : m.attackable w a = w.canCreatureAttack target := by simp [attackable, htarget]
  have hsecond : m.secondChoice w a = w.isSecondChoice target := by simp [secondChoice, htarget]
  rw [Candidate, hattack, hsecond] at h
  rw [scan, htarget, hsecond]
  cases noPriorityTargetFound <;> cases hchoice : w.isSecondChoice target <;> simp_all

/-- What is no candidate of the second pass is gone past, at the end of the list too. -/
theorem scan_skip_true (hlink : (m.reference a).iRefTo ≠ none) (h : m.attackable w a = false) :
    m.scan exactThreat w true current (a :: rest) = m.scan exactThreat w true current rest := by
  obtain ⟨target, htarget⟩ := Option.ne_none_iff_exists'.mp hlink
  have hattack : w.canCreatureAttack target = false := by simpa [attackable, htarget] using h
  rw [scan, htarget]
  simp [hattack]

theorem scan_last (hlink : (m.reference a).iRefTo ≠ none) (h : ¬m.FirstChoice w a) :
    m.scan exactThreat w false current [a] =
      if m.secondChoice w a = true then .again current else .none := by
  obtain ⟨target, htarget⟩ := Option.ne_none_iff_exists'.mp hlink
  have hattack : m.attackable w a = w.canCreatureAttack target := by simp [attackable, htarget]
  have hsecond : m.secondChoice w a = w.isSecondChoice target := by simp [secondChoice, htarget]
  rw [FirstChoice, hattack, hsecond] at h
  rw [scan, htarget, hsecond]
  dsimp only
  cases hchoice : w.isSecondChoice target
  · simp_all [scan]
  · simp

theorem scan_candidate (h : m.Candidate w noPriorityTargetFound a) :
    m.scan exactThreat w noPriorityTargetFound current (a :: rest) =
      match current with
      | none => .found a
      | some c =>
        if c = a ∨ m.threat a ≤ 11 / 10 * m.threat c then
          .found (if c ≠ a ∧ m.attackable w c = true then c else a)
        else if m.Claims w c a then .found a
        else m.scan exactThreat w noPriorityTargetFound (some c) rest := by
  obtain ⟨target, htarget⟩ := Option.ne_none_iff_exists'.mp (linked_of_candidate h)
  have hattack : w.canCreatureAttack target = true := by simpa [attackable, htarget] using h.1
  have hsecond : (!noPriorityTargetFound && w.isSecondChoice target) = false := by
    rcases h.2 with rfl | hchoice
    · rfl
    · simpa [secondChoice, htarget] using fun _ => by simpa [secondChoice, htarget] using hchoice
  rw [scan, htarget]
  simp only [hsecond, hattack, Bool.false_eq_true, if_false, if_true]
  cases current with
  | none => rfl
  | some c =>
    simp only [Claims, htarget, Option.any_some, exactThreat, threat, decide_eq_true_eq]

theorem scan_decides (h : m.Candidate w noPriorityTargetFound a)
    (hdecides : m.Decides w current a) :
    m.scan exactThreat w noPriorityTargetFound current (a :: rest) =
      .found (m.outcome w current a) := by
  rw [scan_candidate h]
  cases current with
  | none => rfl
  | some c =>
    dsimp only [outcome]
    by_cases hself : c = a
    · subst hself
      simp
    · rcases hdecides c rfl with heq | hless | hclaims
      · exact absurd heq.symm hself
      · simp [hless, hself]
      · by_cases hless : m.threat a ≤ 11 / 10 * m.threat c
        · simp [hless, hself]
        · simp [hless, hself, hclaims]

theorem scan_undecided (h : m.Candidate w noPriorityTargetFound a)
    (hdecides : ¬m.Decides w current a) :
    m.scan exactThreat w noPriorityTargetFound current (a :: rest) =
      m.scan exactThreat w noPriorityTargetFound current rest := by
  rw [scan_candidate h]
  cases current with
  | none => exact absurd (fun c hc => by cases hc) hdecides
  | some c =>
    have hnot : ¬(a = c ∨ m.threat a ≤ 11 / 10 * m.threat c ∨ m.Claims w c a) := by
      intro hdec
      refine hdecides fun v hv => ?_
      cases hv
      exact hdec
    simp only [not_or] at hnot
    obtain ⟨hself, hmore, hclaims⟩ := hnot
    dsimp only
    rw [if_neg (not_or.mpr ⟨Ne.symm hself, hmore⟩), if_neg hclaims]

theorem scan_found (post : List ℕ) (hlink : ∀ a ∈ pre, (m.reference a).iRefTo ≠ none)
    (hpre : ∀ x ∈ pre, m.Candidate w noPriorityTargetFound x → ¬m.Decides w current x)
    (hkeep : ∀ c ∈ pre, current = some c → noPriorityTargetFound = false →
      m.secondChoice w c = false)
    (hy : m.Candidate w noPriorityTargetFound y) (hdecides : m.Decides w current y) :
    m.scan exactThreat w noPriorityTargetFound current (pre ++ y :: post) =
      .found (m.outcome w current y) := by
  induction pre with
  | nil => exact scan_decides hy hdecides
  | cons x pre ih =>
    have hrest := ih (fun a ha => hlink a (List.mem_cons_of_mem _ ha))
      (fun a ha => hpre a (List.mem_cons_of_mem _ ha))
      (fun c hc => hkeep c (List.mem_cons_of_mem _ hc))
    rw [List.cons_append]
    by_cases hx : m.Candidate w noPriorityTargetFound x
    · rw [scan_undecided hx (hpre x List.mem_cons_self hx)]
      exact hrest
    · rw [scan_skip (hlink x List.mem_cons_self) hx (by simp), if_neg]
      · exact hrest
      · rintro ⟨hfirst, hsecond, hcurrent⟩
        rw [hkeep x List.mem_cons_self hcurrent hfirst] at hsecond
        cases hsecond

theorem scan_pass (hlink : ∀ a ∈ pre, (m.reference a).iRefTo ≠ none)
    (hpre : ∀ x ∈ pre, ¬m.FirstChoice w x) (hrest : rest ≠ []) :
    m.scan exactThreat w false current (pre ++ rest) =
      m.scan exactThreat w false
        (current.filter fun c => !(decide (c ∈ pre) && m.secondChoice w c)) rest := by
  induction pre generalizing current with
  | nil => cases current <;> simp [Option.filter]
  | cons x pre ih =>
    have hskip : ¬m.Candidate w false x := by
      rw [candidate_false]
      exact hpre x List.mem_cons_self
    rw [List.cons_append, scan_skip (hlink x List.mem_cons_self) hskip (by simp [hrest]),
      ih (fun a ha => hlink a (List.mem_cons_of_mem _ ha))
        fun a ha => hpre a (List.mem_cons_of_mem _ ha)]
    congr 1
    cases current with
    | none => simp
    | some c =>
      by_cases hc : c = x
      · subst hc
        cases hsecond : m.secondChoice w c <;> simp [Option.filter, hsecond]
      · simp [Option.filter, hc]

theorem scan_true_none (hlink : ∀ a ∈ rest, (m.reference a).iRefTo ≠ none)
    (h : ∀ a ∈ rest, m.attackable w a = false) :
    m.scan exactThreat w true current rest = .none := by
  induction rest with
  | nil => rfl
  | cons a rest ih =>
    rw [scan_skip_true (hlink a List.mem_cons_self) (h a List.mem_cons_self)]
    exact ih (fun b hb => hlink b (List.mem_cons_of_mem _ hb))
      fun b hb => h b (List.mem_cons_of_mem _ hb)

theorem exists_first {p : ℕ → Prop} {l : List ℕ} (h : ∃ y ∈ l, p y) :
    ∃ pre y post, l = pre ++ y :: post ∧ p y ∧ ∀ x ∈ pre, ¬p x := by
  classical
  obtain ⟨y, hy, hp⟩ := h
  obtain ⟨z, hz⟩ := Option.isSome_iff_exists.mp
    (List.find?_isSome.mpr ⟨y, hy, decide_eq_true hp⟩ : (l.find? fun x => decide (p x)).isSome)
  obtain ⟨hpz, pre, post, hl, hpre⟩ := List.find?_eq_some_iff_append.mp hz
  exact ⟨pre, z, post, hl, of_decide_eq_true hpz, fun x hx => by simpa using hpre x hx⟩

/-! ## The choice -/

variable {l : List ℕ}

theorem decides_self {c : ℕ} : m.Decides w (some c) c := by
  intro v hv
  cases hv
  exact .inl rfl

theorem not_decides {c x : ℕ} (h : ¬m.Decides w (some c) x) :
    11 / 10 * m.threat c < m.threat x ∧ ¬m.Claims w c x := by
  refine ⟨lt_of_not_ge fun hless => h ?_, fun hclaims => h ?_⟩
  · intro v hv
    cases hv
    exact .inr (.inl hless)
  · intro v hv
    cases hv
    exact .inr (.inr hclaims)

theorem Descending.le (h : m.Descending (pre ++ y :: post)) :
    ∀ x ∈ post, m.threat x ≤ m.threat y := by
  have hsuffix := (List.pairwise_append.mp h).2.1
  exact fun x hx => (List.pairwise_cons.mp hsuffix).1 x hx

theorem Descending.mem_pre (h : m.Descending (pre ++ y :: post)) {x : ℕ}
    (hx : x ∈ pre ++ y :: post) (hmore : m.threat y < m.threat x) : x ∈ pre := by
  rcases List.mem_append.mp hx with hx | hx
  · exact hx
  · rcases List.mem_cons.mp hx with rfl | hx
    · exact absurd hmore (lt_irrefl _)
    · exact absurd (h.le x hx) (not_le.mpr hmore)

theorem rightVictim_of_first {b : ℕ} (hsorted : m.Descending l) (hb : b ∈ l)
    (hfirst : m.FirstChoice w b)
    (hmargin : ∀ c, current = some c → m.FirstChoice w c → b ≠ c → m.Claims w c b)
    (hhighest : ∀ x ∈ l, m.FirstChoice w x → m.threat b < m.threat x →
      ∃ c, current = some c ∧ m.FirstChoice w c ∧ ¬m.Claims w c x) :
    m.RightVictim w l current (some b) := by
  refine ⟨hsorted, nofun, ?_, ?_, ?_, ?_⟩
  · intro a ha
    cases ha
    exact ⟨hb, hfirst.1⟩
  · intro a ha hsecond
    cases ha
    rw [hfirst.2] at hsecond
    cases hsecond
  · intro a c ha
    cases ha
    exact hmargin c
  · intro a ha
    cases ha
    exact hhighest

theorem scan_current {c : ℕ} (hlink : ∀ a ∈ l, (m.reference a).iRefTo ≠ none)
    (hsorted : m.Descending l) (hc : c ∈ l) (hfirst : m.FirstChoice w c) :
    ∃ b, m.scan exactThreat w false (some c) l = .found b ∧
      m.RightVictim w l (some c) (some b) := by
  obtain ⟨pre, z, post, rfl, ⟨hz, hdecides⟩, hpre⟩ :=
    exists_first (p := fun x => m.FirstChoice w x ∧ m.Decides w (some c) x)
      ⟨c, hc, hfirst, decides_self⟩
  -- the first choices before it have no claim
  have hskipped : ∀ x ∈ pre, m.FirstChoice w x → ¬m.Claims w c x :=
    fun x hx hgood => (not_decides fun hdec => hpre x hx ⟨hgood, hdec⟩).2
  have hscan := scan_found post
    (fun a ha => hlink a (List.mem_append_left _ ha))
    (fun x hx hcand hdec => hpre x hx ⟨candidate_false.mp hcand, hdec⟩)
    (fun v _ hv _ => by cases hv; exact hfirst.2) (candidate_false.mpr hz) hdecides
  refine ⟨_, hscan, ?_⟩
  by_cases hless : m.threat z ≤ 11 / 10 * m.threat c
  · have hout : m.outcome w (some c) z = c := by simp [outcome, hless, hfirst.1]
    rw [hout]
    refine rightVictim_of_first hsorted hc hfirst ?_ ?_
    · intro v hv _ hne
      cases hv
      exact absurd rfl hne
    · intro x hx hgood hmore
      refine ⟨c, rfl, hfirst, ?_⟩
      by_cases hxz : m.threat z < m.threat x
      · exact hskipped x (hsorted.mem_pre hx hxz) hgood
      · rintro (hclaims | ⟨hclaims, -⟩)
        · linarith
        · linarith
  · have hout : m.outcome w (some c) z = z := by simp [outcome, hless]
    rw [hout]
    refine rightVictim_of_first hsorted (List.mem_append_right _ List.mem_cons_self) hz ?_ ?_
    · intro v hv _ hne
      cases hv
      exact ((hdecides c rfl).resolve_left hne).resolve_left hless
    · intro x hx hgood hmore
      exact ⟨c, rfl, hfirst, hskipped x (hsorted.mem_pre hx hmore) hgood⟩

theorem mem_takeWhile_ne {c x : ℕ} (hpre : c ∉ pre) (hx : x ≠ c) :
    x ∈ (pre ++ x :: post).takeWhile (· ≠ c) := by
  rw [List.takeWhile_append_of_pos]
  · exact List.mem_append_right _ (by simp [hx])
  · intro a ha
    exact decide_eq_true fun heq => hpre (heq ▸ ha)

theorem scan_claim {c x₀ : ℕ} (hlink : ∀ a ∈ x₀ :: post, (m.reference a).iRefTo ≠ none)
    (hsorted : m.Descending (x₀ :: post)) (hc : ¬m.FirstChoice w c)
    (hafter : m.secondChoice w c = true → c ∈ post) (hy : y ∈ x₀ :: post)
    (hfirst : m.FirstChoice w y) (hx₀ : m.FirstChoice w x₀) (hclaims : m.Claims w c y)
    (hyx₀ : m.threat y = m.threat x₀) :
    ∃ z ∈ x₀ :: post, m.FirstChoice w z ∧ m.threat x₀ ≤ m.threat z ∧
      m.scan exactThreat w false (some c) (x₀ :: post) = .found z := by
  have hydecides : m.Decides w (some c) y := by
    intro v hv
    cases hv
    exact .inr (.inr hclaims)
  obtain ⟨pre, z, post', hsplit, ⟨hz, hdecides⟩, hpre⟩ :=
    exists_first (p := fun x => m.FirstChoice w x ∧ m.Decides w (some c) x)
      ⟨y, hy, hfirst, hydecides⟩
  have hzmem : z ∈ x₀ :: post := hsplit ▸ List.mem_append_right _ List.mem_cons_self
  have hsorted' : m.Descending (pre ++ z :: post') := hsplit ▸ hsorted
  have hyz : m.threat y ≤ m.threat z := by
    refine le_of_not_gt fun hmore => ?_
    exact hpre y (hsorted'.mem_pre (hsplit ▸ hy) hmore) ⟨hfirst, hydecides⟩
  have hcx₀ : m.secondChoice w c = true → m.threat c ≤ m.threat x₀ :=
    fun hsecond => (List.pairwise_cons.mp hsorted).1 c (hafter hsecond)
  -- where the current victim comes before that, it has no more threat, and the very first decides
  have hkeep : ∀ v ∈ pre, some c = some v → false = false → m.secondChoice w v = false := by
    intro v hv hcv _
    cases hcv
    refine Bool.eq_false_iff.mpr fun hsecond => ?_
    have hzc : m.threat z ≤ m.threat c :=
      (List.pairwise_append.mp hsorted').2.2 c hv z List.mem_cons_self
    have hx₀pre : x₀ ∈ pre := by
      cases pre with
      | nil => cases hv
      | cons x pre =>
        obtain ⟨rfl, -⟩ := List.cons.inj hsplit
        exact List.mem_cons_self
    obtain ⟨-, hnot⟩ := not_decides fun hdec => hpre x₀ hx₀pre ⟨hx₀, hdec⟩
    have hle := hcx₀ hsecond
    refine hnot (.inl ?_)
    rcases hclaims with hclaims | ⟨hclaims, -⟩
    · linarith
    · linarith
  have hout : m.outcome w (some c) z = z := by
    refine if_neg fun hkept => ?_
    have hsecond : m.secondChoice w c = true := by
      rw [FirstChoice, not_and, Bool.not_eq_false] at hc
      exact hc hkept.2
    have hle := hcx₀ hsecond
    rcases hclaims with hclaims | ⟨hclaims, -⟩
    · linarith
    · linarith
  have hscan := scan_found post'
    (fun a ha => hlink a (hsplit ▸ List.mem_append_left _ ha))
    (fun x hx hcand hdec => hpre x hx ⟨candidate_false.mp hcand, hdec⟩) hkeep
    (candidate_false.mpr hz) hdecides
  rw [hout, ← hsplit] at hscan
  exact ⟨z, hzmem, hz, hyx₀ ▸ hyz, hscan⟩

theorem scan_top (hlink : ∀ a ∈ l, (m.reference a).iRefTo ≠ none) (hsorted : m.Descending l)
    (hmem : ∀ c, current = some c → c ∈ l) (hgood : ∃ x ∈ l, m.FirstChoice w x)
    (hcurrent : ∀ c, current = some c → ¬m.FirstChoice w c) (hclear : m.Unhindered w l current) :
    ∃ b, m.scan exactThreat w false current l = .found b ∧
      m.RightVictim w l current (some b) := by
  obtain ⟨pre, x₀, post, rfl, hx₀, hpre⟩ := exists_first hgood
  have hx₀mem : x₀ ∈ pre ++ x₀ :: post := List.mem_append_right _ List.mem_cons_self
  have htop : ∀ x ∈ pre ++ x₀ :: post, m.FirstChoice w x → m.threat x ≤ m.threat x₀ :=
    fun x hx hfirst => le_of_not_gt fun hmore => hpre x (hsorted.mem_pre hx hmore) hfirst
  have hright : ∀ b ∈ pre ++ x₀ :: post, m.FirstChoice w b → m.threat x₀ ≤ m.threat b →
      m.RightVictim w (pre ++ x₀ :: post) current (some b) := by
    intro b hb hfirst hle
    refine rightVictim_of_first hsorted hb hfirst ?_ ?_
    · intro c hc hfirst _
      exact absurd hfirst (hcurrent c hc)
    · intro x hx hfirst hmore
      exact absurd ((htop x hx hfirst).trans hle) (not_le.mpr hmore)
  rw [scan_pass (fun a ha => hlink a (List.mem_append_left _ ha)) hpre (List.cons_ne_nil _ _)]
  cases hkept : current.filter fun c => !(decide (c ∈ pre) && m.secondChoice w c) with
  | none =>
    have hdecides : m.Decides w none x₀ := by
      intro c hc
      cases hc
    exact ⟨x₀, scan_decides (candidate_false.mpr hx₀) hdecides, hright x₀ hx₀mem hx₀ le_rfl⟩
  | some c =>
    obtain ⟨hc, hsecond⟩ := Option.filter_eq_some_iff.mp hkept
    have hne : x₀ ≠ c := by
      rintro rfl
      exact hcurrent x₀ hc hx₀
    rcases hclear.first c hc (hcurrent c hc) hgood with
      ⟨hchoice, hbefore⟩ | ⟨hattack, hless⟩ | ⟨y, hy, hyfirst, hclaims, hytop⟩
    · -- the list comes to the current victim first, and it is forgotten
      have hnot : c ∉ pre := by simpa [hchoice] using hsecond
      exact absurd hx₀ (hbefore x₀ (mem_takeWhile_ne hnot hne))
    · have hdecides : m.Decides w (some c) x₀ := by
        intro v hv
        cases hv
        exact .inr (.inl (hless x₀ hx₀mem hx₀))
      have hout : m.outcome w (some c) x₀ = x₀ := by simp [outcome, hattack]
      refine ⟨x₀, ?_, hright x₀ hx₀mem hx₀ le_rfl⟩
      rw [scan_decides (candidate_false.mpr hx₀) hdecides, hout]
    · have hyx₀ : m.threat y = m.threat x₀ := le_antisymm (htop y hy hyfirst) (hytop x₀ hx₀mem hx₀)
      have hymem : y ∈ x₀ :: post := (List.mem_append.mp hy).resolve_left fun h => hpre y h hyfirst
      have hafter : m.secondChoice w c = true → c ∈ post := by
        intro hchoice
        have hnot : c ∉ pre := by simpa [hchoice] using hsecond
        have hafter := (List.mem_append.mp (hmem c hc)).resolve_left hnot
        exact (List.mem_cons.mp hafter).resolve_left hne.symm
      obtain ⟨z, hz, hzfirst, hle, hscan⟩ :=
        scan_claim (fun a ha => hlink a (List.mem_append_right _ ha))
          (List.pairwise_append.mp hsorted).2.1 (hcurrent c hc) hafter hymem hyfirst hx₀ hclaims
          hyx₀
      exact ⟨z, hscan, hright z (List.mem_append_right _ hz) hzfirst hle⟩

/-- **In the second pass**, where there is no first choice: the scan ends with a unit that may be
attacked, if the current victim does not stand in the way of all of them. -/
theorem scan_second (kept : Option ℕ) (hlink : ∀ a ∈ l, (m.reference a).iRefTo ≠ none)
    (hsorted : m.Descending l) (hmem : ∀ c, kept = some c → c ∈ l)
    (hnone : ∀ x ∈ l, ¬m.FirstChoice w x) (hattack : ∃ x ∈ l, m.attackable w x = true)
    (hmem' : ∀ c, current = some c → c ∈ l)
    (hclear : ∀ c, kept = some c → m.attackable w c = true ∨
      ∃ x ∈ l, m.attackable w x = true ∧
        (m.threat x ≤ 11 / 10 * m.threat c ∨ m.Claims w c x)) :
    ∃ b, m.scan exactThreat w true kept l = .found b ∧
      m.RightVictim w l current (some b) := by
  have hsecond : ∀ x ∈ l, m.attackable w x = true → m.secondChoice w x = true := by
    intro x hx hattack
    have hnot := hnone x hx
    rw [FirstChoice, not_and, Bool.not_eq_false] at hnot
    exact hnot hattack
  have hdecide : ∃ x ∈ l, m.attackable w x = true ∧ m.Decides w kept x := by
    cases kept with
    | none =>
      obtain ⟨x, hx, hattack⟩ := hattack
      exact ⟨x, hx, hattack, fun c hc => by cases hc⟩
    | some c =>
      rcases hclear c rfl with hattack | ⟨x, hx, hattack, hdecides⟩
      · exact ⟨c, hmem c rfl, hattack, decides_self⟩
      · refine ⟨x, hx, hattack, fun v hv => ?_⟩
        cases hv
        exact .inr hdecides
  obtain ⟨pre, z, post, rfl, ⟨hz, hdecides⟩, hpre⟩ := exists_first hdecide
  have hscan := scan_found post (fun a ha => hlink a (List.mem_append_left _ ha))
    (fun x hx hcand hdec => hpre x hx ⟨candidate_true.mp hcand, hdec⟩)
    (fun _ _ _ h => by cases h) (candidate_true.mpr hz) hdecides
  have hzmem : z ∈ pre ++ z :: post := List.mem_append_right _ List.mem_cons_self
  have hfound : m.outcome w kept z ∈ pre ++ z :: post ∧
      m.attackable w (m.outcome w kept z) = true := by
    cases kept with
    | none => exact ⟨hzmem, hz⟩
    | some c =>
      rw [outcome]
      split_ifs with hkept
      · exact ⟨hmem c rfl, hkept.2⟩
      · exact ⟨hzmem, hz⟩
  refine ⟨_, hscan, hsorted, nofun, ?_, ?_, ?_, ?_⟩
  · intro a ha
    cases ha
    exact hfound
  · intro a _ _ x hx hattack
    exact hsecond x hx hattack
  · intro a c _ hc hfirst _
    exact absurd hfirst (hnone c (hmem' c hc))
  · intro a _ x hx hfirst _
    exact absurd hfirst (hnone x hx)

theorem getLast?_concat_ne {c : ℕ} (h : c ∈ pre ++ [a]) (hne : (pre ++ [a]).getLast? ≠ some c) :
    c ∈ pre := by
  refine (List.mem_append.mp h).resolve_right fun hc => hne ?_
  rw [List.mem_singleton.mp hc, List.getLast?_concat]

/-- **The choice**, from a list that is in order and a current victim that does not stand in the
way. -/
theorem selectNextVictim_right (hlink : ∀ a ∈ m.iThreatContainer, (m.reference a).iRefTo ≠ none)
    (hmem : ∀ c, m.iCurrentVictim = some c → c ∈ m.iThreatContainer)
    (hsorted : m.Descending m.iThreatContainer)
    (hclear : m.Unhindered w m.iThreatContainer m.iCurrentVictim) :
    ∃ victim, m.selectNextVictim exactThreat w m.iCurrentVictim = some victim ∧
      m.RightVictim w m.iThreatContainer m.iCurrentVictim victim := by
  unfold selectNextVictim
  generalize m.iThreatContainer = l at *
  generalize m.iCurrentVictim = current at *
  by_cases hgood : ∃ x ∈ l, m.FirstChoice w x
  · -- the first pass is enough
    have hscan : ∃ b, m.scan exactThreat w false current l = .found b ∧
        m.RightVictim w l current (some b) := by
      by_cases hcurrent : ∃ c, current = some c ∧ m.FirstChoice w c
      · obtain ⟨c, rfl, hc⟩ := hcurrent
        exact scan_current hlink hsorted (hmem c rfl) hc
      · have hnone : ∀ c, current = some c → ¬m.FirstChoice w c :=
          fun c hc hgood => hcurrent ⟨c, hc, hgood⟩
        exact scan_top hlink hsorted hmem hgood hnone hclear
    obtain ⟨b, hb, hright⟩ := hscan
    rw [hb]
    exact ⟨some b, rfl, hright⟩
  · have hnone : ∀ x ∈ l, ¬m.FirstChoice w x := fun x hx h => hgood ⟨x, hx, h⟩
    have hnothing : (∀ x ∈ l, m.attackable w x = false) → m.RightVictim w l current none :=
      fun h => ⟨hsorted, fun _ => h, (fun a h => by cases h), (fun a h => by cases h),
        (fun a c h => by cases h), fun a h => by cases h⟩
    rcases List.eq_nil_or_concat l with rfl | ⟨pre, a, hl⟩
    · exact ⟨none, rfl, hnothing fun x hx => by cases hx⟩
    · rw [List.concat_eq_append] at hl
      subst hl
      have hamem : a ∈ pre ++ [a] := List.mem_append_right _ (List.mem_singleton_self a)
      rw [scan_pass (fun x hx => hlink x (List.mem_append_left _ hx))
          (fun x hx => hnone x (List.mem_append_left _ hx)) (List.cons_ne_nil _ _),
        scan_last (hlink a hamem) (hnone a hamem)]
      by_cases hattack : ∃ x ∈ pre ++ [a], m.attackable w x = true
      · obtain ⟨hsecond, hcurrent⟩ := hclear.last hnone hattack
        rw [if_pos (hsecond a List.getLast?_concat)]
        obtain ⟨b, hb, hright⟩ := scan_second
          (current.filter fun c => !(decide (c ∈ pre) && m.secondChoice w c))
          hlink hsorted (fun c hc => hmem c (Option.filter_eq_some_iff.mp hc).1) hnone hattack hmem
          (fun c hc => by
            obtain ⟨hc, hkept⟩ := Option.filter_eq_some_iff.mp hc
            rcases hcurrent c hc with h | ⟨hchoice, hne⟩ | h
            · exact .inl h
            · -- a second choice before the last reference was forgotten
              have hpre := getLast?_concat_ne (hmem c hc) hne
              simp [hchoice, hpre] at hkept
            · exact .inr h)
        simp only [hb]
        exact ⟨some b, rfl, hright⟩
      · have hall : ∀ x ∈ pre ++ [a], m.attackable w x = false :=
          fun x hx => Bool.eq_false_iff.mpr fun h => hattack ⟨x, hx, h⟩
        refine ⟨none, ?_, hnothing hall⟩
        split_ifs
        · simp only [scan_true_none hlink hall]
        · rfl

end ThreatManager

/-! ## Runs -/

open ThreatManager

/-- **A step keeps the lists parted**, whether it is an operation or not. -/
theorem act_parted {m m' : ThreatManager ℚ} {a : Act} (hm : m.Parted) (h : act m a = some m') :
    m'.Parted := by
  cases a with
  | op op => exact step_parted hm h
  | setDirty =>
    cases h
    exact ⟨hm.single, hm.online, hm.offline, hm.victim, hm.fresh, hm.linked⟩

theorem update_eq_standing {m : ThreatManager ℚ}
    (h : m.iDirty = true ∨ m.Descending m.iThreatContainer) :
    (m.update exactThreat).iThreatContainer = m.standing ∧ m.Descending m.standing := by
  have hsorted : m.Descending m.standing := by
    have hpairwise : m.standing.Pairwise fun a b => decide (m.threat b ≤ m.threat a) = true :=
      List.pairwise_mergeSort
        (fun a b c hab hbc => by simp only [decide_eq_true_eq] at *; exact hbc.trans hab)
        (fun a b => by simpa using le_total (m.threat b) (m.threat a)) m.iThreatContainer
    exact hpairwise.imp fun h => of_decide_eq_true h
  have hstands : m.Descending m.iThreatContainer → m.standing = m.iThreatContainer :=
    fun h => List.mergeSort_of_pairwise (h.imp fun h => decide_eq_true h)
  have horder : (fun a b => !exactThreat.lt (m.reference a).iThreat (m.reference b).iThreat) =
      fun a b => decide (m.threat b ≤ m.threat a) := by
    funext a b
    simp [exactThreat, threat, ← not_lt]
  refine ⟨?_, hsorted⟩
  unfold update
  rw [horder]
  split_ifs with hdirty
  · rfl
  · refine (hstands ?_).symm
    rcases h with h | h
    · have hlength : m.iThreatContainer.length ≤ 1 := not_lt.mp fun hlt => hdirty ⟨h, hlt⟩
      cases hl : m.iThreatContainer with
      | nil => exact List.Pairwise.nil
      | cons a rest =>
        cases rest with
        | nil => exact List.pairwise_singleton _ _
        | cons b rest => simp [hl] at hlength
    · exact h

/-- **The right victim is chosen** in every clear state that can be reached, whatever units may be
attacked, are in melee range, or are a second choice. -/
theorem rightVictim_of_clear (w : World ℚ) (acts : List Act) (m : ThreatManager ℚ)
    (h : Commons.run (Commons.stepOption act) (some (.new 0)) acts = some m) (hclear : m.Clear w) :
    ∃ m', m.getHostilTarget exactThreat w = some m' ∧
      m.RightVictim w m'.iThreatContainer m.iCurrentVictim m'.iCurrentVictim := by
  have hparted : m.Parted := Commons.stepOption_invariant Parted
    (fun _ _ _ hm h => act_parted hm h) (parted_of_empty rfl rfl rfl) m h
  have hupdated : (m.update exactThreat).Parted := update_parted hparted
  obtain ⟨hlist, hsorted⟩ := update_eq_standing hclear.descending
  have hunhindered : (m.update exactThreat).Unhindered w m.standing m.iCurrentVictim :=
    ⟨hclear.unhindered.first, hclear.unhindered.last⟩
  rw [← hlist] at hsorted hunhindered
  obtain ⟨victim, hvictim, hright⟩ := selectNextVictim_right (w := w) (m := m.update exactThreat)
    (fun a ha => hupdated.linked a (List.mem_append_left _ ha)) hupdated.victim hsorted
    hunhindered
  refine ⟨(m.update exactThreat).setCurrentVictim victim, ?_, ?_⟩
  · exact congrArg (Option.map _) hvictim
  · exact ⟨hright.descending, hright.noVictim, hright.attackable, hright.second, hright.margin,
      hright.highest⟩

/-- A creature, 1, in a world where all may be attacked and all are in melee range; the spell that
the priest, 2, has cast on itself makes it a second choice. -/
def priestAndMage (isSecondChoice : Bool) : World ℚ where
  owner := 1
  isGameMaster _ := false
  isAlive _ := true
  isInMap _ := true
  inSamePhase _ := true
  isInFlight _ := false
  isInAccessiblePlace _ := true
  isWithinCombatRange _ := true
  noThreat _ := false
  calcThreat _ threat _ _ := threat
  reducedThreatPercent _ := 0
  misdirectionTarget _ := none
  glyphOfVigilance _ := 0
  charmerOrOwner _ := none
  isFound _ := true
  isSecondChoice unit := isSecondChoice && unit == 2
  canCreatureAttack _ := true
  isWithinMeleeRange _ := true

/-- The priest gets 95 threat and becomes the current victim; then the mage, 3, gets 100. -/
def mageFight : List Act :=
  [.op (priestAndMage false, .addThreat 1 2 95 1 none), .op (priestAndMage false, .getHostilTarget),
    .op (priestAndMage false, .addThreat 1 3 100 1 none)]

theorem mageFight_isSome :
    (Commons.run (Commons.stepOption act) (some (.new 0)) mageFight).isSome = true := by
  decide +kernel

/-- The manager at the end of the fight. -/
def mageFought : ThreatManager ℚ :=
  (Commons.run (Commons.stepOption act) (some (.new 0)) mageFight).get mageFight_isSome

theorem mageFought_update : (mageFought.update exactThreat).iThreatContainer = [1, 0] := by
  have hdirty : mageFought.iDirty = true := by decide +kernel
  have hlist : mageFought.iThreatContainer = [0, 1] := by decide +kernel
  have hless : mageFought.threat 0 < mageFought.threat 1 := by decide +kernel
  rw [(update_eq_standing (.inl hdirty)).1, standing, hlist]
  simp [List.mergeSort, List.MergeSort.Internal.splitInTwo, not_le.mpr hless]

/-- **The priest is kept**, a second choice, against the mage. -/
theorem mageKept : ¬∀ (w : World ℚ) (acts : List Act) (m : ThreatManager ℚ),
    Commons.run (Commons.stepOption act) (some (.new 0)) acts = some m →
      ∃ m', m.getHostilTarget exactThreat w = some m' ∧
        m.RightVictim w m'.iThreatContainer m.iCurrentVictim m'.iCurrentVictim := by
  intro h
  obtain ⟨m', hm', hright⟩ :=
    h (priestAndMage true) mageFight mageFought (Option.some_get mageFight_isSome).symm
  have hscan : (mageFought.update exactThreat).scan exactThreat (priestAndMage true) false (some 0)
      [1, 0] = .found 0 := by
    have hmage : (mageFought.update exactThreat).FirstChoice (priestAndMage true) 1 := by
      decide +kernel
    have hless : (mageFought.update exactThreat).threat 1 ≤
        11 / 10 * (mageFought.update exactThreat).threat 0 := by decide +kernel
    have hdecides : (mageFought.update exactThreat).Decides (priestAndMage true) (some 0) 1 := by
      intro c hc
      cases hc
      exact .inr (.inl hless)
    rw [scan_decides (candidate_false.mpr hmage) hdecides, outcome,
      if_pos ⟨hless, by decide +kernel⟩]
  have hcurrent : (mageFought.update exactThreat).iCurrentVictim = some 0 := by decide +kernel
  rw [getHostilTarget, selectNextVictim, hcurrent, mageFought_update, hscan] at hm'
  cases hm'
  have hsecond := hright.second 0 rfl (by decide +kernel) 1
    (mageFought_update ▸ List.mem_cons_self) (by decide +kernel)
  exact absurd hsecond (by decide +kernel)

theorem clear_mageFought : mageFought.Clear (priestAndMage false) := by
  have hmem : 0 ∈ mageFought.standing := List.mem_mergeSort.mpr (by decide +kernel)
  have hfirst : mageFought.FirstChoice (priestAndMage false) 0 := by decide +kernel
  have hcurrent : mageFought.iCurrentVictim = some 0 := by decide +kernel
  refine ⟨.inl (by decide +kernel), fun c hc hgood => ?_, fun h => absurd hfirst (h 0 hmem)⟩
  rw [hcurrent] at hc
  cases hc
  exact absurd hfirst hgood

theorem rightVictim_of_clear_mageFought :
    ∃ m', mageFought.getHostilTarget exactThreat (priestAndMage false) = some m' ∧
      mageFought.RightVictim (priestAndMage false) m'.iThreatContainer mageFought.iCurrentVictim
        m'.iCurrentVictim :=
  rightVictim_of_clear (priestAndMage false) mageFight mageFought
    (Option.some_get mageFight_isSome).symm clear_mageFought

end TeraCore.Combat
