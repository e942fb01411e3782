import TeraCore.Auth.AuthSocket

/-!
# Proofs and their challenges

A proof is compared with values that a challenge left in the connection.  A challenge sets the name
of the account before it looks at the account; when it then fails, the values of an earlier
challenge stay, and a proof is compared with those, under the new name.  So a client that passes
for its own account passes for any other.

The session key is such a value, too: a logon proof overwrites it, right or wrong, and a reconnect
proof is compared with what it finds.

A client that keeps to the protocol sends a proof only when the last answer to a challenge asked for
it, and no challenge when it has passed.  Then what its proofs set is bound to their challenges.

## Main results

* `logonProof_of_not_passes`, `reconnectProof_of_not_passes`: a proof that does not pass sets
  nothing
* `sound_of_fair`: every request of a client that keeps to the protocol is sound
-/

namespace TeraCore.Auth

open Commons

/-- A command that was read, with the answers that its handler gets. -/
structure Request where
  cmd : Command
  packet : List Byte
  answers : Answers

namespace Request

def challenge (r : Request) : Challenge := .read r.packet

/-- The challenge is answered with success. -/
def succeeds (r : Request) : Bool :=
  match r.cmd with
  | .logonChallenge => decide (r.challenge.os.length ≤ 4) &&
    match AuthSocket.findAccount r.answers with
    | .ok _ => AuthSocket.challengeResult r.challenge == .WOW_SUCCESS
    | .error _ => false
  | .reconnectChallenge => decide (r.challenge.os.length ≤ 4) && r.answers.sessionkey.isSome
  | _ => false

end Request

/-- **A connection**, with its last challenge. -/
structure Connection where
  socket : AuthSocket
  last : Option Request
  /-- A handler has shut it down and returned false: nothing more is read. -/
  closed : Bool

namespace Connection

variable (srp : Srp) (c : Connection) (r : Request)

def start (expversion : ℕ) : Connection := ⟨.new expversion, none, false⟩

/-- The last challenge, when the request has been carried out. -/
def lastAfter : Option Request :=
  match r.cmd with
  | .logonChallenge | .reconnectChallenge => some r
  | _ => c.last

/-- A request is carried out, if the connection may make it. -/
def step : Connection :=
  if c.closed then c
  else if r.cmd.needsAuthed && !c.socket._authed then
    { c with socket := c.socket.shutdown, closed := true }
  else
    let done := c.socket.execute srp r.answers r.cmd r.packet
    ⟨done.1, c.lastAfter r, !done.2 && done.1.isShutDown⟩

/-! ## What a proof sets -/

/-- The request sets `_authed`: it is true afterwards, even if it was not before. -/
def setsAuthed : Bool :=
  (step srp { c with socket := { c.socket with _authed := false } } r).socket._authed

/-- The request writes a session key. -/
def WritesKey : Prop := (c.step srp r).socket.written ≠ c.socket.written

/-- The proof is right for the name and the values. -/
def LogonProof.Fits (login : List Byte) (x : SrpValues) (lp : LogonProof) : Prop :=
  srp.proof login x.s lp.A x.B (srp.sessionKey lp.A x.B x.v x.b) = lp.M1

/-- **A logon proof is bound to the last challenge**: that was a logon challenge for the name that
the connection has, and was answered with success; what the proof is compared with is what it has
made, and the proof is right for it. -/
def LogonBound (lp : LogonProof) : Prop :=
  ∃ ch, c.last = some ch ∧ ch.cmd = .logonChallenge ∧ ch.succeeds = true ∧
    ch.challenge.login = c.socket._login ∧
    ∃ row, AuthSocket.findAccount ch.answers = .ok row ∧
      c.socket.srpValues = AuthSocket.makeSrpValues srp ch.answers row ∧
      LogonProof.Fits srp ch.challenge.login (AuthSocket.makeSrpValues srp ch.answers row) lp

/-- **A reconnect proof is bound to the last challenge.** -/
def ReconnectBound (lp : ReconnectProof) : Prop :=
  ∃ ch, c.last = some ch ∧ ch.cmd = .reconnectChallenge ∧ ch.succeeds = true ∧
    ch.challenge.login = c.socket._login ∧
    ∃ key, ch.answers.sessionkey = some key ∧ c.socket.K = srp.ofHex key ∧
      c.socket._reconnectProof = ch.answers.randomReconnectProof ∧
      srp.reconnectDigest ch.challenge.login lp.R1 ch.answers.randomReconnectProof
        (srp.ofHex key) = lp.R2

/-- **A sound request**: what sets `_authed` or writes a session key is a proof that is bound to the
last challenge; a key is written for the name, and is that of the proof; and the name does not
change under a client that has passed. -/
structure Sound : Prop where
  bound : c.setsAuthed srp r = true ∨ c.WritesKey srp r →
    r.cmd = .logonProof ∧ c.LogonBound srp (.read r.packet) ∨
      r.cmd = .reconnectProof ∧ c.ReconnectBound srp (.read r.packet)
  written : c.WritesKey srp r → r.cmd = .logonProof ∧ (c.step srp r).socket.written =
    (c.socket._login, c.socket.keyOf srp (.read r.packet)) :: c.socket.written
  login : c.socket._authed = true → (c.step srp r).socket._login = c.socket._login

/-! ## A client that keeps to the protocol -/

/-- The message answers a challenge. -/
def answersChallenge : Reply → Bool
  | .challengeFailed _ | .challenge .. | .reconnectChallenge _ => true
  | _ => false

/-- What the client was sent last about a challenge. -/
def lastAnswer (σ : AuthSocket) : Option Reply := (σ.sent.filter answersChallenge).getLast?

/-- The proof that the last answer to a challenge asks for. -/
def asked (σ : AuthSocket) : Option Command :=
  match lastAnswer σ with
  | some (.challenge .WOW_SUCCESS _ _ _) => some .logonProof
  | some (.reconnectChallenge _) => some .reconnectProof
  | _ => none

/-- **The client keeps to the protocol**: it sends a proof when the last answer to a challenge asked
for it, and a challenge, with the name of a system of at most four letters, when it has not
passed. -/
def Fair : Prop :=
  match r.cmd with
  | .logonProof => asked c.socket = some .logonProof
  | .reconnectProof => asked c.socket = some .reconnectProof
  | .logonChallenge | .reconnectChallenge =>
    c.socket._authed = false ∧ r.challenge.os.length ≤ 4
  | _ => True

instance : Decidable (c.Fair r) := by
  unfold Fair
  cases r.cmd <;> dsimp only <;> infer_instance

variable {c r}

/-! ## What a proof that does not pass leaves -/

variable (σ : AuthSocket)

/-- What a proof sets that passes. -/
def passed : Bool × List (List Byte × ℕ) := (σ._authed, σ.written)

theorem logonProof_of_not_passes {σ : AuthSocket} {lp : LogonProof}
    (h : σ.logonPasses srp lp = false) : passed (σ.logonProof srp lp).1 = passed σ := by
  unfold AuthSocket.logonProof
  split_ifs with hkey hpasses
  · rfl
  · rw [h] at hpasses
    cases hpasses
  · rfl

theorem reconnectProof_of_not_passes {σ : AuthSocket} {lp : ReconnectProof}
    (h : σ.reconnectPasses srp lp = false) : passed (σ.reconnectProof srp lp).1 = passed σ := by
  unfold AuthSocket.reconnectProof
  split_ifs with hno hpasses
  · rfl
  · rw [h] at hpasses
    cases hpasses
  · rfl

theorem passed_logonChallenge (a : Answers) (σ : AuthSocket) (ch : Challenge) :
    passed (σ.logonChallenge srp a ch).1 = passed σ := by
  unfold AuthSocket.logonChallenge
  split
  · rfl
  · cases AuthSocket.findAccount a <;> rfl

theorem passed_reconnectChallenge (a : Answers) (σ : AuthSocket) (ch : Challenge) :
    passed (σ.reconnectChallenge srp a ch).1 = passed σ := by
  unfold AuthSocket.reconnectChallenge
  cases a.sessionkey with
  | none => rfl
  | some key =>
    dsimp only
    split <;> rfl

/-- The request is a proof that passes. -/
def Passes (r : Request) : Prop :=
  r.cmd = .logonProof ∧ σ.logonPasses srp (.read r.packet) = true ∨
    r.cmd = .reconnectProof ∧ σ.reconnectPasses srp (.read r.packet) = true

/-- **Only a proof that passes sets anything.** -/
theorem passed_step (h : ¬(c.closed = false ∧ Passes srp c.socket r)) :
    passed (c.step srp r).socket = passed c.socket := by
  unfold step
  split_ifs with hclosed hrefused
  · rfl
  · rfl
  rw [Bool.not_eq_true] at hclosed
  have hno : ¬Passes srp c.socket r := fun hpasses => h ⟨hclosed, hpasses⟩
  unfold Passes at hno
  dsimp only [AuthSocket.execute]
  cases hcmd : r.cmd with
  | logonChallenge => exact passed_logonChallenge srp r.answers c.socket _
  | reconnectChallenge => exact passed_reconnectChallenge srp r.answers c.socket _
  | logonProof =>
    exact logonProof_of_not_passes srp (by simpa [hcmd] using hno)
  | reconnectProof =>
    exact reconnectProof_of_not_passes srp (by simpa [hcmd] using hno)
  | realmList =>
    dsimp only [AuthSocket.realmList]
    cases r.answers.accountId <;> rfl
  | xferAccept => rfl
  | xferResume => rfl
  | xferCancel => rfl

theorem passes_of_sets (h : c.setsAuthed srp r = true ∨ c.WritesKey srp r) :
    c.closed = false ∧ Passes srp c.socket r := by
  by_contra hno
  rcases h with hauthed | hkey
  · have hkept := congrArg Prod.fst
      (passed_step srp (c := { c with socket := { c.socket with _authed := false } }) (r := r) hno)
    exact Bool.false_ne_true (hkept.symm.trans hauthed)
  · exact hkey (congrArg Prod.snd (passed_step srp hno))

theorem setsAuthed_of_logonPasses (hopen : c.closed = false) (hcmd : r.cmd = .logonProof)
    (hpasses : c.socket.logonPasses srp (.read r.packet) = true) :
    c.setsAuthed srp r = true := by
  let σ := { c.socket with _authed := false }
  have hright : σ.logonPasses srp (.read r.packet) = true := hpasses
  have hcomputes : σ.computesKey (.read r.packet) = true :=
    (Bool.and_eq_true _ _ ▸ hright : _ ∧ _).1
  have hdone : (σ.logonProof srp (.read r.packet)).1._authed = true := by
    rw [AuthSocket.logonProof, hcomputes, hright]
    rfl
  unfold setsAuthed step
  simpa only [hopen, hcmd, Command.needsAuthed, AuthSocket.execute, Bool.false_and,
    Bool.false_eq_true, if_false] using hdone

/-! ## What the last challenge left -/

theorem lastAnswer_send {σ : AuthSocket} {m : Reply} (h : answersChallenge m = true) :
    lastAnswer (σ.send m) = some m := by
  simp [lastAnswer, AuthSocket.send, List.filter_append, h]

theorem asked_send {σ : AuthSocket} {m : Reply} (h : answersChallenge m = false) :
    asked (σ.send m) = asked σ := by
  simp [asked, lastAnswer, AuthSocket.send, List.filter_append, h]

/-- **What the last challenge left in the connection.** -/
structure Followed (srp : Srp) (c : Connection) : Prop where
  login : ∀ ch, c.last = some ch → ch.challenge.login = c.socket._login
  logon : c.closed = false → asked c.socket = some .logonProof →
    ∃ ch, c.last = some ch ∧ ch.cmd = .logonChallenge ∧ ch.succeeds = true ∧
      ∃ row, AuthSocket.findAccount ch.answers = .ok row ∧
        c.socket.srpValues = AuthSocket.makeSrpValues srp ch.answers row
  reconnect : c.closed = false → asked c.socket = some .reconnectProof →
    ∃ ch, c.last = some ch ∧ ch.cmd = .reconnectChallenge ∧ ch.succeeds = true ∧
      ∃ key, ch.answers.sessionkey = some key ∧ c.socket.K = srp.ofHex key ∧
        c.socket._reconnectProof = ch.answers.randomReconnectProof

/-- What does not touch the name and the values keeps it; the key may change after a logon
challenge. -/
theorem Followed.congr (h : c.Followed srp) {c' : Connection} (hlast : c'.last = c.last)
    (hclosed : c'.closed = false → c.closed = false)
    (hlogin : c'.socket._login = c.socket._login) (hasked : asked c'.socket = asked c.socket)
    (hvalues : c'.socket.srpValues = c.socket.srpValues)
    (hkey : asked c.socket = some .reconnectProof → c'.socket.K = c.socket.K ∧
      c'.socket._reconnectProof = c.socket._reconnectProof) : c'.Followed srp where
  login := by
    rw [hlast, hlogin]
    exact h.login
  logon := by
    rw [hlast, hvalues, hasked]
    exact fun hopen => h.logon (hclosed hopen)
  reconnect := by
    rw [hlast, hasked]
    intro hopen hreconnect
    obtain ⟨hK, hproof⟩ := hkey hreconnect
    rw [hK, hproof]
    exact h.reconnect (hclosed hopen) hreconnect

theorem followed_logonChallenge (hcmd : r.cmd = .logonChallenge)
    (hos : r.challenge.os.length ≤ 4) (closed : Bool) :
    Followed srp ⟨(c.socket.logonChallenge srp r.answers r.challenge).1, some r, closed⟩ := by
  unfold AuthSocket.logonChallenge
  rw [if_neg (Nat.not_lt.mpr hos)]
  cases haccount : AuthSocket.findAccount r.answers with
  | error result =>
    have hanswer := fun σ : AuthSocket =>
      lastAnswer_send (σ := σ) (m := .challengeFailed result) rfl
    refine ⟨?_, ?_, ?_⟩
    · rintro _ ⟨⟩
      rfl
    · intro _ h
      rw [asked, hanswer] at h
      cases h
    · intro _ h
      rw [asked, hanswer] at h
      cases h
  | ok row =>
    have hanswer := fun σ : AuthSocket => lastAnswer_send (σ := σ)
      (m := .challenge (AuthSocket.challengeResult r.challenge)
        (AuthSocket.makeSrpValues srp r.answers row).B
        (AuthSocket.makeSrpValues srp r.answers row).s r.answers.unk3) rfl
    refine ⟨?_, ?_, ?_⟩
    · rintro _ ⟨⟩
      rfl
    · intro _ h
      rw [asked, hanswer] at h
      refine ⟨r, rfl, hcmd, ?_, row, haccount, rfl⟩
      have hresult : AuthSocket.challengeResult r.challenge = .WOW_SUCCESS := by
        unfold AuthSocket.challengeResult at h ⊢
        split_ifs at h ⊢
        rfl
      simp [Request.succeeds, hcmd, hos, haccount, hresult]
    · intro _ h
      rw [asked, hanswer] at h
      unfold AuthSocket.challengeResult at h
      split_ifs at h
      cases h

theorem followed_reconnectChallenge (hcmd : r.cmd = .reconnectChallenge)
    (hos : r.challenge.os.length ≤ 4) (closed : Bool)
    (hclosed : closed = false → r.answers.sessionkey.isSome = true) :
    Followed srp ⟨(c.socket.reconnectChallenge srp r.answers r.challenge).1, some r, closed⟩ := by
  unfold AuthSocket.reconnectChallenge
  cases hkey : r.answers.sessionkey with
  | none =>
    rw [hkey] at hclosed
    refine ⟨?_, ?_, ?_⟩
    · rintro _ ⟨⟩
      rfl
    · intro hopen
      cases hclosed hopen
    · intro hopen
      cases hclosed hopen
  | some key =>
    dsimp only
    rw [if_neg (Nat.not_lt.mpr hos)]
    have hanswer := fun σ : AuthSocket => lastAnswer_send (σ := σ)
      (m := .reconnectChallenge r.answers.randomReconnectProof) rfl
    refine ⟨?_, ?_, ?_⟩
    · rintro _ ⟨⟩
      rfl
    · intro _ h
      rw [asked, hanswer] at h
      cases h
    · intro _ _
      exact ⟨r, rfl, hcmd, by simp [Request.succeeds, hcmd, hos, hkey], key, hkey, rfl, rfl⟩

theorem logonProof_keeps (lp : LogonProof) :
    (σ.logonProof srp lp).1._login = σ._login ∧
      (σ.logonProof srp lp).1.srpValues = σ.srpValues ∧
      asked (σ.logonProof srp lp).1 = asked σ := by
  unfold AuthSocket.logonProof
  split_ifs
  · exact ⟨rfl, rfl, rfl⟩
  · exact ⟨rfl, rfl, asked_send rfl⟩
  · exact ⟨rfl, rfl, asked_send rfl⟩

theorem reconnectProof_keeps (lp : ReconnectProof) :
    (σ.reconnectProof srp lp).1._login = σ._login ∧
      (σ.reconnectProof srp lp).1.srpValues = σ.srpValues ∧
      asked (σ.reconnectProof srp lp).1 = asked σ ∧
      (σ.reconnectProof srp lp).1.K = σ.K ∧
      (σ.reconnectProof srp lp).1._reconnectProof = σ._reconnectProof := by
  unfold AuthSocket.reconnectProof
  split_ifs
  · exact ⟨rfl, rfl, rfl, rfl, rfl⟩
  · exact ⟨rfl, rfl, asked_send rfl, rfl, rfl⟩
  · exact ⟨rfl, rfl, rfl, rfl, rfl⟩

theorem realmList_keeps (a : Answers) (σ : AuthSocket) :
    (σ.realmList a).1._login = σ._login ∧ (σ.realmList a).1.srpValues = σ.srpValues ∧
      asked (σ.realmList a).1 = asked σ ∧ (σ.realmList a).1.K = σ.K ∧
      (σ.realmList a).1._reconnectProof = σ._reconnectProof := by
  unfold AuthSocket.realmList
  cases a.accountId with
  | none => exact ⟨rfl, rfl, rfl, rfl, rfl⟩
  | some id => exact ⟨rfl, rfl, asked_send rfl, rfl, rfl⟩

/-- **Every fair request keeps it.** -/
theorem followed_step (h : c.Followed srp) (hfair : c.Fair r) : (c.step srp r).Followed srp := by
  unfold step
  split_ifs with hclosed hrefused
  · exact h
  · exact h.congr srp rfl nofun rfl rfl rfl fun _ => ⟨rfl, rfl⟩
  rw [Bool.not_eq_true] at hclosed
  unfold Fair at hfair
  dsimp only [AuthSocket.execute, lastAfter]
  cases hcmd : r.cmd with
  | logonChallenge =>
    rw [hcmd] at hfair
    exact followed_logonChallenge srp hcmd hfair.2 _
  | reconnectChallenge =>
    rw [hcmd] at hfair
    refine followed_reconnectChallenge srp hcmd hfair.2 _ fun hopen => ?_
    unfold AuthSocket.reconnectChallenge at hopen
    cases hkey : r.answers.sessionkey with
    | none =>
      rw [hkey] at hopen
      cases hopen
    | some key => rfl
  | logonProof =>
    rw [hcmd] at hfair
    obtain ⟨hlogin, hvalues, hasked⟩ := logonProof_keeps srp c.socket (.read r.packet)
    refine h.congr srp rfl (fun _ => hclosed) hlogin hasked hvalues fun hother => ?_
    rw [hfair] at hother
    cases hother
  | reconnectProof =>
    obtain ⟨hlogin, hvalues, hasked, hkey⟩ := reconnectProof_keeps srp c.socket (.read r.packet)
    exact h.congr srp rfl (fun _ => hclosed) hlogin hasked hvalues fun _ => hkey
  | realmList =>
    obtain ⟨hlogin, hvalues, hasked, hkey⟩ := realmList_keeps r.answers c.socket
    exact h.congr srp rfl (fun _ => hclosed) hlogin hasked hvalues fun _ => hkey
  | xferAccept => exact h.congr srp rfl (fun _ => hclosed) rfl rfl rfl fun _ => ⟨rfl, rfl⟩
  | xferResume => exact h.congr srp rfl (fun _ => hclosed) rfl rfl rfl fun _ => ⟨rfl, rfl⟩
  | xferCancel => exact h.congr srp rfl (fun _ => hclosed) rfl rfl rfl fun _ => ⟨rfl, rfl⟩

/-! ## Sound requests -/

theorem logonBound_of_followed (h : c.Followed srp) (hopen : c.closed = false)
    (hasked : asked c.socket = some .logonProof) {lp : LogonProof}
    (hpasses : c.socket.logonPasses srp lp = true) : c.LogonBound srp lp := by
  obtain ⟨ch, hlast, hkind, hsucceeds, row, haccount, hvalues⟩ := h.logon hopen hasked
  have hlogin := h.login ch hlast
  refine ⟨ch, hlast, hkind, hsucceeds, hlogin, row, haccount, hvalues, ?_⟩
  have hright := (Bool.and_eq_true _ _ ▸ hpasses : _ ∧ _).2
  rw [LogonProof.Fits, hlogin, ← hvalues]
  exact eq_of_beq hright

theorem reconnectBound_of_followed (h : c.Followed srp) (hopen : c.closed = false)
    (hasked : asked c.socket = some .reconnectProof) {lp : ReconnectProof}
    (hpasses : c.socket.reconnectPasses srp lp = true) : c.ReconnectBound srp lp := by
  obtain ⟨ch, hlast, hkind, hsucceeds, key, hsession, hK, hproof⟩ := h.reconnect hopen hasked
  have hlogin := h.login ch hlast
  refine ⟨ch, hlast, hkind, hsucceeds, hlogin, key, hsession, hK, hproof, ?_⟩
  have hright := (Bool.and_eq_true _ _ ▸ hpasses : _ ∧ _).2
  rw [hlogin, ← hproof, ← hK]
  exact eq_of_beq hright

theorem sound_of_followed (h : c.Followed srp) (hfair : c.Fair r) : c.Sound srp r where
  bound := by
    intro hsets
    obtain ⟨hopen, hpasses⟩ := passes_of_sets srp hsets
    unfold Fair at hfair
    rcases hpasses with ⟨hcmd, hpasses⟩ | ⟨hcmd, hpasses⟩
    · rw [hcmd] at hfair
      exact .inl ⟨hcmd, logonBound_of_followed srp h hopen hfair hpasses⟩
    · rw [hcmd] at hfair
      exact .inr ⟨hcmd, reconnectBound_of_followed srp h hopen hfair hpasses⟩
  written := by
    intro hkey
    obtain ⟨hopen, hpasses⟩ := passes_of_sets srp (.inr hkey)
    unfold WritesKey at hkey
    unfold step at hkey ⊢
    have hclosed : ¬c.closed = true := by simp [hopen]
    rcases hpasses with ⟨hcmd, hpasses⟩ | ⟨hcmd, hpasses⟩
    · have hcomputes := (Bool.and_eq_true _ _ ▸ hpasses : _ ∧ _).1
      refine ⟨hcmd, ?_⟩
      simp only [hopen, hcmd, Command.needsAuthed, AuthSocket.execute, AuthSocket.logonProof,
        hcomputes, hpasses]
      rfl
    · refine absurd ?_ hkey
      simp only [hopen, hcmd, Command.needsAuthed, AuthSocket.execute]
      unfold AuthSocket.reconnectProof
      split_ifs <;> rfl
  login := by
    intro hauthed
    unfold step
    split_ifs with hclosed hrefused
    · rfl
    · rfl
    unfold Fair at hfair
    cases hcmd : r.cmd with
    | logonChallenge =>
      rw [hcmd] at hfair
      cases hauthed.symm.trans hfair.1
    | reconnectChallenge =>
      rw [hcmd] at hfair
      cases hauthed.symm.trans hfair.1
    | logonProof => exact (logonProof_keeps srp c.socket _).1
    | reconnectProof => exact (reconnectProof_keeps srp c.socket _).1
    | realmList => exact (realmList_keeps r.answers c.socket).1
    | xferAccept => rfl
    | xferResume => rfl
    | xferCancel => rfl

/-- **Every request of a client that keeps to the protocol is sound.** -/
theorem sound_of_fair (srp : Srp) (expversion : ℕ) {rs : List Request}
    (h : Admissible (step srp) Fair (start expversion) rs) :
    Admissible (step srp) (Sound srp) (start expversion) rs := by
  refine h.of_invariant (Followed srp) (fun c r hc hfair => followed_step srp hc hfair)
    (fun c r hc hfair => sound_of_followed srp hc hfair) ⟨?_, ?_, ?_⟩
  · rintro _ ⟨⟩
  · rintro - ⟨⟩
  · rintro - ⟨⟩

/-! ## Two logons -/

/-- A logon proof. -/
def packProof (A : ℕ) (M1 : BitVec 160) : List Byte :=
  [0x01] ++ littleEndian 32 A ++ littleEndian 20 M1.toNat ++ List.replicate 22 0

theorem read_packProof {A : ℕ} (hA : A < 256 ^ 32) (M1 : BitVec 160) :
    LogonProof.read (packProof A M1) = ⟨A, M1⟩ := by
  have hbytes : ∀ rest : List Byte,
      ((littleEndian 32 A ++ (littleEndian 20 M1.toNat ++ rest)).take 32) = littleEndian 32 A := by
    intro rest
    exact List.take_left' (length_littleEndian 32 A)
  have hproof : ∀ rest : List Byte,
      (((littleEndian 32 A ++ (littleEndian 20 M1.toNat ++ rest)).drop 32).take 20) =
        littleEndian 20 M1.toNat := by
    intro rest
    rw [List.drop_left' (length_littleEndian 32 A)]
    exact List.take_left' (length_littleEndian 20 M1.toNat)
  have hfits : M1.toNat < 256 ^ 20 := M1.isLt
  simp only [LogonProof.read, packProof, List.cons_append, List.nil_append, List.append_assoc,
    List.drop_succ_cons, List.drop_zero, hbytes, hproof, fromLittleEndian_littleEndian,
    Nat.mod_eq_of_lt hA, Nat.mod_eq_of_lt hfits]
  simp

/-- A logon, and a request for the realms. -/
def exampleLogon : List Request :=
  [⟨.logonChallenge, exampleChallenge 0x00 [65, 66], exampleAnswers⟩,
    ⟨.logonProof, packProof 1 (exampleSrp.proof [65, 66] 5 1 34 51), exampleAnswers⟩,
    ⟨.realmList, List.replicate 5 0, exampleAnswers⟩]

theorem sound_of_fair_logon :
    Admissible (step exampleSrp) (Sound exampleSrp) (start 0) exampleLogon ∧
      (run (step exampleSrp) (start 0) exampleLogon).socket._authed = true := by
  have hfair : Admissible (step exampleSrp) Fair (start 0) exampleLogon := by
    decide +kernel
  have hauthed : (run (step exampleSrp) (start 0) exampleLogon).socket._authed = true := by
    decide +kernel
  exact ⟨sound_of_fair exampleSrp 0 hfair, hauthed⟩

/-- Every request is sound, whatever is asked. -/
def AlwaysSound (srp : Srp) : Prop :=
  ∀ expversion rs, Admissible (step srp) (Sound srp) (start expversion) rs

/-- **A failed challenge keeps the values of another account**: a client is challenged for its own
account, then for a banned one, and passes for that with what it knows about its own. -/
theorem failed_challenge_keeps_values : ¬∃ srp, AlwaysSound srp := by
  rintro ⟨srp, hall⟩
  let own : Request := ⟨.logonChallenge, exampleChallenge 0x00 [65], exampleAnswers⟩
  let other : Request := ⟨.logonChallenge, exampleChallenge 0x00 [66],
    { exampleAnswers with accountBan := some (1, 2) }⟩
  let v := srp.verifier "hash" 5
  let B := srp.publicKey v 7
  let proof : Request := ⟨.logonProof,
    packProof 1 (srp.proof [66] 5 1 B (srp.sessionKey 1 B v 7)), exampleAnswers⟩
  have hread : LogonProof.read proof.packet =
      ⟨1, srp.proof [66] 5 1 B (srp.sessionKey 1 B v 7)⟩ := read_packProof (by norm_num) _
  have hown : Challenge.read (exampleChallenge 0x00 [65]) = ⟨12340, [], [65]⟩ := by decide +kernel
  have hother : Challenge.read (exampleChallenge 0x00 [66]) = ⟨12340, [], [66]⟩ := by
    decide +kernel
  have hrun : ∃ sent, run (step srp) (start 0) [own, other] =
      ⟨⟨5, v, 7, B, 0, 0, false, [66], POST_BC_EXP_FLAG, [], sent, false⟩, some other, false⟩ := by
    have hfirst : step srp (start 0) own = ⟨(AuthSocket.logonChallenge srp own.answers (.new 0)
        (.read (exampleChallenge 0x00 [65]))).1, some own, false⟩ := rfl
    rw [run_cons, run_cons, run_nil, hfirst, hown]
    change ∃ sent, (⟨(AuthSocket.logonChallenge srp other.answers
      (AuthSocket.logonChallenge srp own.answers (.new 0) ⟨12340, [], [65]⟩).1
      (.read (exampleChallenge 0x00 [66]))).1, some other, false⟩ : Connection) = _
    rw [hother]
    exact ⟨_, rfl⟩
  obtain ⟨sent, hrun⟩ := hrun
  have hsets : (run (step srp) (start 0) [own, other]).setsAuthed srp proof = true := by
    rw [hrun]
    refine setsAuthed_of_logonPasses srp rfl rfl ?_
    rw [hread]
    simp [AuthSocket.logonPasses, AuthSocket.computesKey, AuthSocket.keyOf]
  -- the last challenge is the one that failed
  rcases (hall 0 [own, other, proof]).2.2.1.bound (.inl hsets) with
    ⟨-, ch, hlast, -, hsucceeds, -⟩ | ⟨hcmd, -⟩
  · obtain rfl : other = ch := Option.some.inj hlast
    simp [Request.succeeds, other, AuthSocket.findAccount, exampleAnswers] at hsucceeds
  · cases hcmd

end Connection

end TeraCore.Auth
