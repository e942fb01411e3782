import TeraCore.Server.WorldSocketInput

/-!
# World sockets: output

What is sent to a client is copied to a buffer, behind a header that is encrypted.  What does not
fit there is put in a queue of blocks, and so is everything after it until the queue is empty.
When the system can take more, the buffer is sent, and then a block of the queue; it may take a
part of it, or nothing.

## Main definitions

* `ServerPktHeader`, `ServerPacket`
* `MessageQueue`: the blocks, with a mark from which on it is full
* `SocketOutput`: the state of the output, with the bytes that the system has accepted
* `SocketOutput.sendPacket`, `SocketOutput.handleOutput`
-/

namespace TeraCore.Server

open Commons

/-- The header of a packet: the size, with the opcode, in two bytes or in three of them, and the
opcode. -/
structure ServerPktHeader where
  size : BitVec 32
  header : List Byte

namespace ServerPktHeader

def isLargePacket (size : BitVec 32) : Bool := decide (size > 0x7FFF#32)

def new (size : BitVec 32) (cmd : BitVec 16) : ServerPktHeader where
  size := size
  header :=
    (if isLargePacket size then [0x80#8 ||| (size >>> 16).setWidth 8] else []) ++
      [(size >>> 8).setWidth 8, size.setWidth 8, cmd.setWidth 8, (cmd >>> 8).setWidth 8]

def getHeaderLength (header : ServerPktHeader) : ℕ :=
  2 + if isLargePacket header.size then 3 else 2

theorem header_length (size : BitVec 32) (cmd : BitVec 16) :
    (new size cmd).header.length = (new size cmd).getHeaderLength := by
  unfold getHeaderLength new
  split_ifs <;> rfl

end ServerPktHeader

structure ServerPacket where
  opcode : BitVec 16
  payload : List Byte
  deriving DecidableEq

/-- The header that `SendPacket` makes. -/
def ServerPacket.header (pct : ServerPacket) : ServerPktHeader :=
  .new (BitVec.ofNat 32 (pct.payload.length + 2)) pct.opcode

/-- What `m_Crypt` makes of a byte. -/
abbrev EncryptByte (κ : Type) : Type := κ → Byte → Byte × κ

variable {κ : Type}

def encryptSend (encryptByte : EncryptByte κ) : κ → List Byte → List Byte × κ
  | crypt, [] => ([], crypt)
  | crypt, b :: l =>
    let (b, crypt) := encryptByte crypt b
    let (l, crypt) := encryptSend encryptByte crypt l
    (b :: l, crypt)

theorem encryptSend_length (encryptByte : EncryptByte κ) (crypt : κ) (l : List Byte) :
    (encryptSend encryptByte crypt l).1.length = l.length := by
  induction l generalizing crypt with
  | nil => rfl
  | cons b l ih =>
    change (encryptSend encryptByte _ l).1.length + 1 = l.length + 1
    rw [ih]

/-! ## The message queue -/

/-- The blocks that wait, the first of them at the head. -/
abbrev MessageQueue : Type := List (MessageBlock Byte)

namespace MessageQueue

/-- `high_water_mark()` -/
def highWaterMark : ℕ := 8 * 1024 * 1024

variable (queue : MessageQueue)

/-- `cur_bytes_`: a block counts with its size, also when a part of it was read. -/
def curBytes : ℕ := (queue.map (·.size)).sum

def isFull : Bool := decide (queue.curBytes ≥ highWaterMark)

def enqueueTail (mb : MessageBlock Byte) : Option MessageQueue :=
  if queue.isFull then none else some (queue ++ [mb])

def enqueueHead (mb : MessageBlock Byte) : Option MessageQueue :=
  if queue.isFull then none else some (mb :: queue)

/-- The bytes that wait. -/
def unread : List Byte := queue.flatMap (·.unread)

end MessageQueue

/-! ## The output -/

/-- What a `send` of the system comes to. -/
inductive SendResult where
  | accepted (n : ℕ)
  | wouldBlock
  | error
  deriving DecidableEq

/-- What a call returns. -/
inductive CallResult where
  /-- `-1` -/
  | failed
  /-- `0` -/
  | done
  /-- `WRITE_MASK` -/
  | again
  /-- The program stops at an assertion. -/
  | assertion
  deriving DecidableEq

structure SocketOutput (κ : Type) where
  m_Crypt : κ
  closing_ : Bool
  m_OutBuffer : MessageBlock Byte
  msg_queue : MessageQueue
  m_OutActive : Bool
  /-- The bytes that the system has accepted so far. -/
  accepted : List Byte
  /-- Some call has failed. -/
  failed : Bool

namespace SocketOutput

/-- A socket that is opened. -/
def new (crypt : κ) (m_OutBufferSize : ℕ) : SocketOutput κ where
  m_Crypt := crypt
  closing_ := false
  m_OutBuffer := .new m_OutBufferSize
  msg_queue := []
  m_OutActive := true
  accepted := []
  failed := false

variable (encryptByte : EncryptByte κ) (s : SocketOutput κ)

def sendPacket (pct : ServerPacket) : CallResult × SocketOutput κ :=
  if s.closing_ then (.failed, s)
  else
    let header := pct.header
    let (bytes, crypt) := encryptSend encryptByte s.m_Crypt header.header
    let s := { s with m_Crypt := crypt }
    if s.m_OutBuffer.space ≥ pct.payload.length + header.getHeaderLength ∧ s.msg_queue = [] then
      match s.m_OutBuffer.copy bytes with
      | none => (.assertion, s)
      | some block =>
        let s := { s with m_OutBuffer := block }
        match s.m_OutBuffer.copy pct.payload with
        | none => (.assertion, s)
        | some block => (.done, { s with m_OutBuffer := block })
    else
      -- these copies are not checked
      let mb := MessageBlock.new (pct.payload.length + header.getHeaderLength)
      let mb := (mb.copy bytes).getD mb
      let mb := (mb.copy pct.payload).getD mb
      match s.msg_queue.enqueueTail mb with
      | none => (.failed, s)
      | some queue => (.done, { s with msg_queue := queue })

variable (reactor : Bool)

/-- `cancel_wakeup_output`; the reactor may refuse. -/
def cancelWakeupOutput (s : SocketOutput κ) : CallResult × SocketOutput κ :=
  if !s.m_OutActive then (.done, s)
  else (if reactor then .done else .failed, { s with m_OutActive := false })

/-- `schedule_wakeup_output` -/
def scheduleWakeupOutput (s : SocketOutput κ) : CallResult × SocketOutput κ :=
  if s.m_OutActive then (.done, s)
  else (if reactor then .done else .failed, { s with m_OutActive := true })

/-- **`handle_output_queue`**: the head of the queue is sent. -/
def handleOutputQueue (send : SendResult) (s : SocketOutput κ) : CallResult × SocketOutput κ :=
  match s.msg_queue with
  | [] => s.cancelWakeupOutput reactor
  | mblk :: queue =>
    let s := { s with msg_queue := queue }
    match send with
    | .error => (.failed, s)
    | .wouldBlock =>
      -- whether the block is taken back is not checked
      { s with msg_queue := (MessageQueue.enqueueHead queue mblk).getD queue }
        |>.scheduleWakeupOutput reactor
    | .accepted n =>
      if n = 0 then (.failed, s)
      else
        let s := { s with accepted := s.accepted ++ mblk.unread.take n }
        if n < mblk.length then
          match MessageQueue.enqueueHead queue (mblk.advance n) with
          | none => (.failed, s)
          | some queue => { s with msg_queue := queue }.scheduleWakeupOutput reactor
        else if queue = [] then s.cancelWakeupOutput reactor
        else (.again, s)

/-- **`handle_output`**: the buffer is sent, and the head of the queue when the buffer is empty. -/
def handleOutput (first second : SendResult) (s : SocketOutput κ) : CallResult × SocketOutput κ :=
  if s.closing_ then (.failed, s)
  else if s.m_OutBuffer.length = 0 then s.handleOutputQueue reactor second
  else
    match first with
    | .error => (.failed, s)
    | .wouldBlock => s.scheduleWakeupOutput reactor
    | .accepted n =>
      if n = 0 then (.failed, s)
      else
        let s := { s with accepted := s.accepted ++ s.m_OutBuffer.unread.take n }
        if n < s.m_OutBuffer.length then
          { s with m_OutBuffer := (s.m_OutBuffer.advance n).crunch }.scheduleWakeupOutput reactor
        else { s with m_OutBuffer := s.m_OutBuffer.reset }.handleOutputQueue reactor second

/-! ### Runs -/

/-- What happens to a socket.  The cipher gets its key when the client is known. -/
inductive Operation (κ : Type) where
  | sendPacket (pct : ServerPacket)
  | handleOutput (reactor : Bool) (first second : SendResult)
  | initCrypt (crypt : κ)
  | closeSocket

/-- The state after a call, with a note that it has failed. -/
def noted (s : SocketOutput κ) (called : CallResult × SocketOutput κ) : SocketOutput κ :=
  { called.2 with failed := s.failed || decide (called.1 = .failed) }

def step : Operation κ → SocketOutput κ
  | .sendPacket pct => s.noted (s.sendPacket encryptByte pct)
  | .handleOutput reactor first second => s.noted (s.handleOutput reactor first second)
  | .initCrypt crypt => { s with m_Crypt := crypt }
  | .closeSocket => { s with closing_ := true }

end SocketOutput

end TeraCore.Server
