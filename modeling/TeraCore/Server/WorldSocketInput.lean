import TeraCore.Commons.LittleEndian
import TeraCore.Commons.MessageBlock

/-!
# World sockets: input

What a client sends comes in pieces.  The socket puts them together to headers and payloads: it
fills a block of six bytes, decrypts the header in it, makes a packet of the size that the header
says, fills that, and hands it on.

A piece may end anywhere; the socket then returns, and goes on with the next piece.

## Main definitions

* `ClientPktHeader`, `ClientPacket`
* `Peer`: the cipher, and what becomes of a packet
* `SocketInput`: the state of the input, with the packets handed on so far
* `SocketInput.handleInputMissingData`: the input functions, for one piece
* `SocketInput.receive`: a row of pieces, up to an error
-/

namespace TeraCore.Server

open Commons

abbrev Byte : Type := BitVec 8

/-- The header of a packet: its size, with the opcode but without the size itself, and the
opcode. -/
structure ClientPktHeader where
  size : ℕ
  cmd : ℕ
  deriving DecidableEq

/-- Six bytes as a header: the size is big-endian, the opcode is not. -/
def ClientPktHeader.read (bytes : List Byte) : ClientPktHeader where
  size := fromLittleEndian (bytes.take 2).reverse
  cmd := fromLittleEndian (bytes.drop 2)

def ClientPktHeader.malformed (header : ClientPktHeader) : Bool :=
  decide (header.size < 4 ∨ header.size > 10240 ∨ header.cmd > 10240)

structure ClientPacket where
  opcode : ℕ
  payload : List Byte
  deriving DecidableEq

/-- **What is around the input**: the cipher, with a state that the packets may change, and the
processing of a packet, which may fail. -/
structure Peer (ε : Type) where
  decryptByte : ε → Byte → Byte × ε
  processIncoming : ε → ClientPacket → Bool × ε

def Peer.decryptRecv {ε : Type} (peer : Peer ε) : ε → List Byte → List Byte × ε
  | env, [] => ([], env)
  | env, b :: l =>
    let (b, env) := peer.decryptByte env b
    let (l, env) := peer.decryptRecv env l
    (b :: l, env)

/-- What stops the program: an assertion; or a loop that does not end. -/
inductive InputError where
  | assertion
  | endless
  deriving DecidableEq

/-- What `handle_input_missing_data` returns. -/
inductive InputResult where
  /-- `-1`, and the error says that it would block -/
  | wouldBlock
  /-- `-1`, and the error says that the input is invalid -/
  | invalid
  /-- `0` -/
  | closed
  /-- `1` -/
  | wholeBuffer
  /-- `2` -/
  | lessThanBuffer
  deriving DecidableEq

/-- **The input of a socket.** `m_RecvPct` writes to the contents of `m_RecvWPct`. -/
structure SocketInput (ε : Type) where
  env : ε
  m_Header : MessageBlock Byte
  /-- The opcode of the packet that is being received. -/
  m_RecvWPct : Option ℕ
  m_RecvPct : MessageBlock Byte
  /-- The packets that were handed to `ProcessIncoming`, so far. -/
  handed : List ClientPacket

namespace SocketInput

variable {ε : Type}

def new (env : ε) : SocketInput ε where
  env := env
  m_Header := .new 6
  m_RecvWPct := none
  m_RecvPct := .new 0
  handed := []

variable (peer : Peer ε) (s : SocketInput ε)

/-- **`handle_input_header`**; the result is that the header is valid. -/
def handleInputHeader : Except InputError (Bool × SocketInput ε) :=
  if s.m_RecvWPct ≠ none then .error .assertion
  else if s.m_Header.length ≠ 6 then .error .assertion
  else
    let (bytes, env) := peer.decryptRecv s.env s.m_Header.unread
    let s := { s with env := env }
    let header := ClientPktHeader.read bytes
    if header.malformed then .ok (false, s)
    else
      let size := header.size - 4
      let s := { s with m_RecvWPct := some header.cmd }
      if size > 0 then .ok (true, { s with m_RecvPct := .new size })
      else if s.m_RecvPct.space ≠ 0 then .error .assertion
      else .ok (true, s)

/-- **`handle_input_payload`**; the result is that the packet is processed. -/
def handleInputPayload : Except InputError (Bool × SocketInput ε) :=
  if s.m_RecvPct.space ≠ 0 then .error .assertion
  else if s.m_Header.space ≠ 0 then .error .assertion
  else
    match s.m_RecvWPct with
    | none => .error .assertion
    | some opcode =>
      let packet := ⟨opcode, s.m_RecvPct.unread⟩
      let (ok, env) := peer.processIncoming s.env packet
      .ok (ok, { s with
        env := env
        m_Header := s.m_Header.reset
        m_RecvWPct := none
        m_RecvPct := .new 0
        handed := s.handed ++ [packet] })

/-- Bytes are copied to a block, as many as there is room for; the rest of them remain. A copy that
does not fit copies nothing. -/
def fill (block : MessageBlock Byte) (message : List Byte) : MessageBlock Byte × List Byte :=
  let n := if message.length > block.space then block.space else message.length
  ((block.copy (message.take n)).getD block, message.drop n)

/-- What a part of the loop's body comes to: it goes on with the rest of the piece, or returns. -/
inductive Turn (ε : Type) where
  | goOn (s : SocketInput ε) (message : List Byte)
  | return (result : InputResult) (s : SocketInput ε)

/-- The header is filled, if it is not whole, and handled when it is. -/
def headerTurn (message : List Byte) : Except InputError (Turn ε) :=
  if s.m_Header.space > 0 then
    let (block, message) := fill s.m_Header message
    let s := { s with m_Header := block }
    if block.space > 0 then
      if message.length ≠ 0 then .error .assertion else .ok (.return .wouldBlock s)
    else do
      let (valid, s) ← s.handleInputHeader peer
      .ok (if valid then .goOn s message else .return .invalid s)
  else .ok (.goOn s message)

/-- The payload is filled, if it is not whole, and handled when it is. -/
def payloadTurn (message : List Byte) : Except InputError (Turn ε) :=
  if s.m_RecvWPct = none then .ok (.return .invalid s)
  else
    let (block, message) :=
      if s.m_RecvPct.space > 0 then fill s.m_RecvPct message else (s.m_RecvPct, message)
    let s := { s with m_RecvPct := block }
    if block.space > 0 then
      if message.length ≠ 0 then .error .assertion else .ok (.return .wouldBlock s)
    else do
      let (ok, s) ← s.handleInputPayload peer
      .ok (if ok then .goOn s message else .return .invalid s)

/-- **The body of the loop.** -/
def turn (message : List Byte) : Except InputError (Turn ε) := do
  match ← s.headerTurn peer message with
  | .return result s => .ok (.return result s)
  | .goOn s message => s.payloadTurn peer message

/-- **The loop**, over the bytes of a piece; it has so many turns, at most. -/
def loop (peer : Peer ε) :
    ℕ → SocketInput ε → List Byte → Except InputError (Option InputResult × SocketInput ε)
  | _, s, [] => .ok (none, s)
  | 0, _, _ :: _ => .error .endless
  | n + 1, s, message@(_ :: _) => do
    match ← s.turn peer message with
    | .return result s => .ok (some result, s)
    | .goOn s message => loop peer n s message

/-- **`handle_input_missing_data`**, for a piece that is received. -/
def handleInputMissingData (piece : List Byte) : Except InputError (InputResult × SocketInput ε) :=
  if piece.length = 0 then .ok (.closed, s)
  else do
    let (result, s) ← loop peer piece.length s piece
    .ok (result.getD (if piece.length = 4096 then .wholeBuffer else .lessThanBuffer), s)

/-- **A row of pieces**: the connection is closed at an error, and nothing more is received. The
result is that there was one. -/
def receive (peer : Peer ε) : SocketInput ε → List (List Byte) →
    Except InputError (Bool × SocketInput ε)
  | s, [] => .ok (false, s)
  | s, piece :: pieces => do
    let (result, s) ← s.handleInputMissingData peer piece
    if result = .invalid ∨ result = .closed then .ok (true, s) else receive peer s pieces

end SocketInput

end TeraCore.Server
