import TeraCore.Commons.LittleEndian
import TeraCore.Commons.Run

/-!
# Auth sockets

A client logs on in two commands: a challenge, with the name of an account, and a proof that it
knows the account's password.  To reconnect, it proves instead that it knows the session key that
the last logon wrote.  Then it asks for the realms.

What comes from the network goes to a buffer.  After each piece, the socket looks for commands in
the buffer and calls the handler of each, until one returns false.

## Main definitions

* `Srp`: the functions of the protocol that are taken as given
* `AuthSocket`: what a connection keeps between its commands
* `logonChallenge`, `logonProof`, `reconnectChallenge`, `reconnectProof`, `realmList`: what the
  handlers do with a command that they have read
* `handle`: the handlers, with what they read from the buffer
* `OnRead`, `handleInput`: the commands that are in the buffer; and a piece of input
-/

namespace TeraCore.Auth

open Commons

abbrev Byte : Type := BitVec 8

/-! ## What is asked -/

/-- **The functions that are taken as given**: hashes, and arithmetic modulo `N`. -/
structure Srp where
  /-- `SetHexStr` -/
  ofHex : String → ℕ
  /-- `v`, of a password's hash and `s`. -/
  verifier : String → ℕ → ℕ
  /-- `B`, of `v` and `b`. -/
  publicKey : ℕ → ℕ → ℕ
  /-- `K`, of `A`, `B`, `v` and `b`. -/
  sessionKey : ℕ → ℕ → ℕ → ℕ → ℕ
  /-- `M`, of the name, `s`, `A`, `B` and `K`. -/
  proof : List Byte → ℕ → ℕ → ℕ → ℕ → BitVec 160
  /-- `M2`, of `A`, `M` and `K`. -/
  answer : ℕ → BitVec 160 → ℕ → BitVec 160
  /-- The digest of the name, `R1`, the server's random number and `K`. -/
  reconnectDigest : List Byte → ℕ → ℕ → ℕ → BitVec 160

/-- A row of the account table. -/
structure AccountRow where
  sha_pass_hash : String
  locked : Bool
  last_ip : String
  v : String
  s : String

/-- **What a handler gets from the database** and from the random numbers. -/
structure Answers where
  remoteAddress : String
  ipBanned : Bool
  account : Option AccountRow
  /-- When the account was banned, and until when. -/
  accountBan : Option (ℕ × ℕ)
  /-- The random `s`, `b` and `unk3`. -/
  randomS : ℕ
  randomB : ℕ
  unk3 : ℕ
  /-- `LOGIN_SEL_SESSIONKEY` -/
  sessionkey : Option String
  randomReconnectProof : ℕ
  /-- `LOGIN_SEL_ACCOUNT_ID_BY_NAME` -/
  accountId : Option ℕ

/-! ## Commands -/

inductive Command where
  | logonChallenge | logonProof | reconnectChallenge | reconnectProof | realmList
  | xferAccept | xferResume | xferCancel
deriving DecidableEq

/-- `eAuthCmd` -/
def Command.ofByte (b : Byte) : Option Command :=
  if b = 0x00 then some .logonChallenge
  else if b = 0x01 then some .logonProof
  else if b = 0x02 then some .reconnectChallenge
  else if b = 0x03 then some .reconnectProof
  else if b = 0x10 then some .realmList
  else if b = 0x32 then some .xferAccept
  else if b = 0x33 then some .xferResume
  else if b = 0x34 then some .xferCancel
  else none

/-- `STATUS_AUTHED` -/
def Command.needsAuthed : Command → Bool
  | .realmList => true
  | _ => false

/-- What the challenge handlers read from `sAuthLogonChallenge_C`. -/
structure Challenge where
  build : ℕ
  os : List Byte
  login : List Byte
deriving DecidableEq

/-- The bytes up to the first zero. -/
def cString (bytes : List Byte) : List Byte := bytes.takeWhile (· ≠ 0)

/-- A zero stands behind the packet. -/
def Challenge.read (packet : List Byte) : Challenge where
  build := fromLittleEndian ((packet.drop 11).take 2)
  os := cString (packet.drop 17)
  login := cString (packet.drop 34)

/-- `sAuthLogonProof_C` -/
structure LogonProof where
  A : ℕ
  M1 : BitVec 160

def LogonProof.read (packet : List Byte) : LogonProof where
  A := fromLittleEndian ((packet.drop 1).take 32)
  M1 := BitVec.ofNat 160 (fromLittleEndian ((packet.drop 33).take 20))

/-- `sAuthReconnectProof_C` -/
structure ReconnectProof where
  R1 : ℕ
  R2 : BitVec 160

def ReconnectProof.read (packet : List Byte) : ReconnectProof where
  R1 := fromLittleEndian ((packet.drop 1).take 16)
  R2 := BitVec.ofNat 160 (fromLittleEndian ((packet.drop 17).take 20))

/-! ## Builds -/

def IsPostBCAcceptedClientBuild (build : ℕ) : Bool :=
  [15595, 14545, 13623, 12340, 11723, 11403, 11159, 10505, 9947, 8606].contains build

def IsPreBCAcceptedClientBuild (build : ℕ) : Bool := [6005, 5875].contains build

def IsAcceptedClientBuild (build : ℕ) : Bool :=
  IsPostBCAcceptedClientBuild build || IsPreBCAcceptedClientBuild build

abbrev POST_BC_EXP_FLAG : ℕ := 2

abbrev PRE_BC_EXP_FLAG : ℕ := 1

abbrev NO_VALID_EXP_FLAG : ℕ := 0

def expversionOf (build : ℕ) : ℕ :=
  if IsPostBCAcceptedClientBuild build then POST_BC_EXP_FLAG
  else if IsPreBCAcceptedClientBuild build then PRE_BC_EXP_FLAG
  else NO_VALID_EXP_FLAG

/-! ## A connection -/

inductive AuthResult where
  | WOW_SUCCESS | WOW_FAIL_BANNED | WOW_FAIL_UNKNOWN_ACCOUNT | WOW_FAIL_VERSION_INVALID
  | WOW_FAIL_SUSPENDED
deriving DecidableEq

inductive Reply where
  | challengeFailed (result : AuthResult)
  | challenge (result : AuthResult) (B s unk3 : ℕ)
  /-- The old form of it is sent to old clients. -/
  | logonProof (old : Bool) (M2 : BitVec 160)
  | logonProofFailed
  | reconnectChallenge (reconnectProof : ℕ)
  | reconnectProof
  | realmList (id : ℕ)

/-- The values of the SRP6 protocol. -/
structure SrpValues where
  s : ℕ
  v : ℕ
  b : ℕ
  B : ℕ
deriving DecidableEq

/-- **What a connection keeps** between its commands. -/
structure AuthSocket where
  s : ℕ
  v : ℕ
  b : ℕ
  B : ℕ
  K : ℕ
  _reconnectProof : ℕ
  _authed : Bool
  _login : List Byte
  _expversion : ℕ
  /-- The session keys that were written, each with the name of its account. -/
  written : List (List Byte × ℕ)
  sent : List Reply
  /-- `shutdown` was called: nothing more is sent or received. -/
  isShutDown : Bool

namespace AuthSocket

variable (srp : Srp) (a : Answers) (σ : AuthSocket)

/-- A new connection.  The expansion is not initialised. -/
def new (expversion : ℕ) : AuthSocket where
  s := 0
  v := 0
  b := 0
  B := 0
  K := 0
  _reconnectProof := 0
  _authed := false
  _login := []
  _expversion := expversion
  written := []
  sent := []
  isShutDown := false

def srpValues : SrpValues := ⟨σ.s, σ.v, σ.b, σ.B⟩

def send (r : Reply) : AuthSocket := { σ with sent := σ.sent ++ [r] }

def shutdown : AuthSocket := { σ with isShutDown := true }

/-! ## Challenges -/

/-- The account that is challenged, or what is answered instead. -/
def findAccount : Except AuthResult AccountRow :=
  if a.ipBanned then .error .WOW_FAIL_BANNED
  else
    match a.account with
    | none => .error .WOW_FAIL_UNKNOWN_ACCOUNT
    | some row =>
      if row.locked && row.last_ip != a.remoteAddress then .error .WOW_FAIL_SUSPENDED
      else
        match a.accountBan with
        | some (bandate, unbandate) =>
          .error (if bandate = unbandate then .WOW_FAIL_BANNED else .WOW_FAIL_SUSPENDED)
        | none => .ok row

/-- `s` and `v` are in the database, or they are made by `_SetVSFields`; `b` and `B` are new. -/
def makeSrpValues (row : AccountRow) : SrpValues :=
  if row.v.length ≠ 64 ∨ row.s.length ≠ 64 then
    let v := srp.verifier row.sha_pass_hash a.randomS
    ⟨a.randomS, v, a.randomB, srp.publicKey v a.randomB⟩
  else
    let v := srp.ofHex row.v
    ⟨srp.ofHex row.s, v, a.randomB, srp.publicKey v a.randomB⟩

/-- The answer to a challenge for an account that was found. -/
def challengeResult (ch : Challenge) : AuthResult :=
  if IsAcceptedClientBuild ch.build then .WOW_SUCCESS else .WOW_FAIL_VERSION_INVALID

/-- **`_HandleLogonChallenge`**, of a packet that was read. -/
def logonChallenge (ch : Challenge) : AuthSocket × Bool :=
  let σ := { σ with _login := ch.login, _expversion := expversionOf ch.build }
  if ch.os.length > 4 then (σ, false)
  else
    match findAccount a with
    | .error result => (σ.send (.challengeFailed result), true)
    | .ok row =>
      let x := makeSrpValues srp a row
      ({ σ with s := x.s, v := x.v, b := x.b, B := x.B }.send
        (.challenge (challengeResult ch) x.B x.s a.unk3), true)

/-- **`_HandleReconnectChallenge`**, of a packet that was read. -/
def reconnectChallenge (ch : Challenge) : AuthSocket × Bool :=
  let σ := { σ with _login := ch.login }
  match a.sessionkey with
  | none => (σ.shutdown, false)
  | some key =>
    let σ := { σ with _expversion := expversionOf ch.build }
    if ch.os.length > 4 then (σ, false)
    else
      ({ σ with K := srp.ofHex key, _reconnectProof := a.randomReconnectProof }.send
        (.reconnectChallenge a.randomReconnectProof), true)

/-! ## Proofs -/

variable (lp : LogonProof)

/-- The proof gets as far as the session key. -/
def computesKey : Bool := σ._expversion != NO_VALID_EXP_FLAG && lp.A != 0

def keyOf : ℕ := srp.sessionKey lp.A σ.B σ.v σ.b

/-- The logon proof is right. -/
def logonPasses : Bool :=
  σ.computesKey lp && srp.proof σ._login σ.s lp.A σ.B (σ.keyOf srp lp) == lp.M1

/-- **`_HandleLogonProof`**, of a packet that was read. -/
def logonProof : AuthSocket × Bool :=
  if !σ.computesKey lp then (σ.shutdown, true)
  else
    let K := σ.keyOf srp lp
    if σ.logonPasses srp lp then
      ({ σ with K := K, written := (σ._login, K) :: σ.written, _authed := true }.send
        (.logonProof (σ._expversion != POST_BC_EXP_FLAG) (srp.answer lp.A lp.M1 K)), true)
    else ({ σ with K := K }.send .logonProofFailed, true)

def canReconnect : Bool := !σ._login.isEmpty && σ._reconnectProof != 0 && σ.K != 0

/-- The reconnect proof is right. -/
def reconnectPasses (lp : ReconnectProof) : Bool :=
  σ.canReconnect && srp.reconnectDigest σ._login lp.R1 σ._reconnectProof σ.K == lp.R2

/-- **`_HandleReconnectProof`**, of a packet that was read. -/
def reconnectProof (lp : ReconnectProof) : AuthSocket × Bool :=
  if !σ.canReconnect then (σ, false)
  else if σ.reconnectPasses srp lp then ({ σ with _authed := true }.send .reconnectProof, true)
  else (σ.shutdown, false)

/-- **`_HandleRealmList`**; what it says about the realms is left out. -/
def realmList : AuthSocket × Bool :=
  match a.accountId with
  | none => (σ.shutdown, false)
  | some id => (σ.send (.realmList id), true)

/-- What a handler does with a packet that it has read.  There are no patches. -/
def execute (cmd : Command) (packet : List Byte) : AuthSocket × Bool :=
  match cmd with
  | .logonChallenge => σ.logonChallenge srp a (.read packet)
  | .logonProof => σ.logonProof srp (.read packet)
  | .reconnectChallenge => σ.reconnectChallenge srp a (.read packet)
  | .reconnectProof => σ.reconnectProof srp (.read packet)
  | .realmList => σ.realmList a
  | .xferAccept | .xferResume => (σ, false)
  | .xferCancel => (σ.shutdown, true)

/-- The command that a byte stands for, if it is known and the connection may use it. -/
def accepts (b : Byte) : Option Command :=
  (Command.ofByte b).filter fun cmd => !cmd.needsAuthed || σ._authed

end AuthSocket

/-! ## The buffer -/

abbrev sizeofLogonChallenge : ℕ := 35

abbrev sizeofLogonProof : ℕ := 75

abbrev sizeofReconnectProof : ℕ := 58

abbrev sizeofRealmList : ℕ := 5

/-- **A realm socket**: its session, what is in its buffer, and the commands that were read. -/
structure RealmSocket where
  session : AuthSocket
  input : List Byte
  /-- The bytes that each handler read which had all of them. -/
  done : List (List Byte)

namespace RealmSocket

variable (srp : Srp) (env : ℕ → Answers) (c : RealmSocket)

def new (σ : AuthSocket) : RealmSocket := ⟨σ, [], []⟩

/-- A packet was read, and a handler goes on with it. -/
def finish (cmd : Command) (size : ℕ) : RealmSocket × Bool :=
  let packet := c.input.take size
  let r := c.session.execute srp (env c.done.length) cmd packet
  (⟨r.1, c.input.drop size, c.done ++ [packet]⟩, r.2)

/-- The size that the header of a challenge says. -/
def remainingSize (bytes : List Byte) : ℕ := fromLittleEndian ((bytes.drop 2).take 2)

/-- How both challenge handlers read. -/
def recvChallenge (cmd : Command) : RealmSocket × Bool :=
  if c.input.length < sizeofLogonChallenge then (c, false)
  else
    let remaining := remainingSize c.input
    -- the header is read by now
    if remaining < sizeofLogonChallenge - 4 ∨ (c.input.drop 4).length < remaining then
      ({ c with input := c.input.drop 4 }, false)
    else c.finish srp env cmd (4 + remaining)

/-- How the handlers of commands of one size read. -/
def recvPacket (cmd : Command) (size : ℕ) : RealmSocket × Bool :=
  if c.input.length < size then (c, false) else c.finish srp env cmd size

def handle : Command → RealmSocket × Bool
  | .logonChallenge => c.recvChallenge srp env .logonChallenge
  | .logonProof => c.recvPacket srp env .logonProof sizeofLogonProof
  | .reconnectChallenge => c.recvChallenge srp env .reconnectChallenge
  | .reconnectProof => c.recvPacket srp env .reconnectProof sizeofReconnectProof
  | .realmList => c.recvPacket srp env .realmList sizeofRealmList
  | .xferAccept => (c, false)
  | .xferResume => (c, false)
  | .xferCancel => c.recvPacket srp env .xferCancel 1

/-- A command that the socket does not know, or not yet. -/
def refuse : RealmSocket := { c with session := c.session.shutdown }

/-- **`OnRead`** -/
def OnRead (c : RealmSocket) : RealmSocket :=
  match c.input.head? with
  | none => c
  | some b =>
    match c.session.accepts b with
    | none => c.refuse
    | some cmd =>
      -- a handler that returns true has read something
      if (c.handle srp env cmd).2 = true ∧
          (c.handle srp env cmd).1.input.length < c.input.length then
        OnRead (c.handle srp env cmd).1
      else (c.handle srp env cmd).1
termination_by c.input.length
decreasing_by
  rename_i h
  exact h.2

/-- **`handle_input`**, with what is received.  The buffer is crunched afterwards.  `shutdown` has
closed the connection and taken the socket from the reactor: it is not called any more. -/
def handleInput (c : RealmSocket) (received : List Byte) : RealmSocket :=
  if c.session.isShutDown then c else OnRead srp env { c with input := c.input ++ received }

end RealmSocket

/-! ## An account to log on to -/

/-- A challenge for a name, of build 12340. -/
def exampleChallenge (cmd : Byte) (name : List Byte) : List Byte :=
  [cmd] ++ List.replicate 10 0 ++ [0x34, 0x30] ++ List.replicate 21 0 ++ name

/-- An account with a password, which nobody has banned. -/
def exampleAnswers : Answers where
  remoteAddress := ""
  ipBanned := false
  account := some ⟨"hash", false, "", "", ""⟩
  accountBan := none
  randomS := 5
  randomB := 7
  unk3 := 0
  sessionkey := none
  randomReconnectProof := 0
  accountId := some 1

def exampleSrp : Srp where
  ofHex _ := 3
  verifier hash s := hash.length + s
  publicKey v b := 3 * v + b
  sessionKey A B v b := A + B + v + b
  proof login s A B K := BitVec.ofNat 160 (login.length + s + A + B + K)
  answer _ M _ := M
  reconnectDigest login R1 r K := BitVec.ofNat 160 (login.length + R1 + r + K)

end TeraCore.Auth
