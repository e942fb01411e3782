import TeraCore.Commons.Run
import TeraCore.Server.WorldSocketOutput

/-!
# World sockets: the order of the outgoing bytes

The bytes that the system has accepted, those in the buffer and those in the queue are the packets
that were sent, in their order: packets go to the buffer only while the queue is empty, and the
queue is sent only while the buffer is empty.

When the head of the queue cannot be sent at all, it is put back at the head, and whether the queue
takes it is not checked.  A queue whose other blocks come to the high-water mark is full, and does
not.

## Main results

* `step_stream`: what a step adds to the stream
* `sent_in_order`: nothing is lost, repeated or put in another order, as long as the queue takes
  its head back
-/

namespace TeraCore.Server

open Commons

variable {κ : Type}

namespace SocketOutput

variable (s : SocketOutput κ)

/-- The bytes that wait: the buffer, and the queue behind it. -/
def pending : List Byte := s.m_OutBuffer.unread ++ s.msg_queue.unread

/-- What has been sent: the bytes that the system has accepted, and those that wait. -/
def stream : List Byte := s.accepted ++ s.pending

/-- What an operation adds to the stream, and the cipher after it. -/
def Operation.encoded (encryptByte : EncryptByte κ) (crypt : κ) :
    Operation κ → List Byte × κ
  | .sendPacket pct =>
    let (header, crypt) := encryptSend encryptByte crypt pct.header.header
    (header ++ pct.payload, crypt)
  | .initCrypt crypt' => ([], crypt')
  | _ => ([], crypt)

/-- **The bytes of the packets that are sent**, each header encrypted once. -/
def encoded (encryptByte : EncryptByte κ) : κ → List (Operation κ) → List Byte
  | _, [] => []
  | crypt, op :: ops =>
    let (bytes, crypt) := Operation.encoded encryptByte crypt op
    bytes ++ encoded encryptByte crypt ops

/-- The head of the queue is sent: the buffer is empty, or is sent as a whole. -/
def ReachesQueue (first : SendResult) : Prop :=
  s.closing_ = false ∧ (s.m_OutBuffer.length = 0 ∨
    ∃ n, first = .accepted n ∧ s.m_OutBuffer.length ≤ n)

/-- **The queue takes its head back**: where a send of the head would block, the other blocks are
below the high-water mark. -/
def TakesBack : Operation κ → Prop
  | .handleOutput _ first second => s.ReachesQueue first → second = .wouldBlock →
    MessageQueue.curBytes s.msg_queue.tail < MessageQueue.highWaterMark
  | _ => True

/-! ## What the calls do -/

variable {encryptByte : EncryptByte κ} {s} {pct : ServerPacket} {reactor : Bool}
  {first second : SendResult}

theorem unread_cons (mb : MessageBlock Byte) (queue : MessageQueue) :
    MessageQueue.unread (mb :: queue) = mb.unread ++ queue.unread := rfl

theorem unread_append (queue : MessageQueue) (mb : MessageBlock Byte) :
    MessageQueue.unread (queue ++ [mb]) = queue.unread ++ mb.unread := by
  rw [MessageQueue.unread, MessageQueue.unread, List.flatMap_append, List.flatMap_singleton]

theorem copy_copy (b : MessageBlock Byte) (l l' : List Byte)
    (hroom : l.length + l'.length ≤ b.space) (hrd : b.rd = 0) :
    ∃ b' b'', b.copy l = some b' ∧ b'.copy l' = some b'' ∧ b''.size = b.size ∧ b''.rd = 0 ∧
      b''.unread = b.unread ++ l ++ l' := by
  obtain ⟨b', hcopy, hsize, hdata, hrd'⟩ := MessageBlock.copy_of_le (b := b) (l := l) (by omega)
  have hspace : l'.length ≤ b'.space := by
    rw [MessageBlock.space, hsize, hdata, List.length_append]
    rw [MessageBlock.space] at hroom
    omega
  obtain ⟨b'', hcopy', hsize', hdata', hrd''⟩ := MessageBlock.copy_of_le hspace
  refine ⟨b', b'', hcopy, hcopy', hsize'.trans hsize, hrd''.trans (hrd'.trans hrd), ?_⟩
  rw [MessageBlock.unread, MessageBlock.unread, hrd'', hrd', hrd, hdata', hdata]
  rfl

/-- A call that moves bytes on: from the queue or the buffer to the system, or nowhere. -/
structure Moves (s s' : SocketOutput κ) : Prop where
  stream : s'.stream = s.stream
  m_Crypt : s'.m_Crypt = s.m_Crypt
  rd : s'.m_OutBuffer.rd = 0

theorem scheduleWakeupOutput_snd :
    (s.scheduleWakeupOutput reactor).2 = { s with m_OutActive := true } := by
  rw [scheduleWakeupOutput]
  by_cases hactive : s.m_OutActive = true
  · rw [if_pos hactive, ← hactive]
  · rw [if_neg hactive]

theorem cancelWakeupOutput_snd :
    (s.cancelWakeupOutput reactor).2 = { s with m_OutActive := false } := by
  rw [cancelWakeupOutput]
  by_cases hactive : (!s.m_OutActive) = true
  · rw [if_pos hactive]
    rw [Bool.not_eq_true'] at hactive
    rw [← hactive]
  · rw [if_neg hactive]

theorem Moves.scheduleWakeup {s' : SocketOutput κ} (h : Moves s s') :
    Moves s (s'.scheduleWakeupOutput reactor).2 := by
  rw [scheduleWakeupOutput_snd]
  exact ⟨h.stream, h.m_Crypt, h.rd⟩

theorem Moves.cancelWakeup {s' : SocketOutput κ} (h : Moves s s') :
    Moves s (s'.cancelWakeupOutput reactor).2 := by
  rw [cancelWakeupOutput_snd]
  exact ⟨h.stream, h.m_Crypt, h.rd⟩

theorem enqueueHead_eq {queue queue' : MessageQueue} {mb : MessageBlock Byte}
    (h : MessageQueue.enqueueHead queue mb = some queue') : queue' = mb :: queue := by
  rw [MessageQueue.enqueueHead] at h
  split_ifs at h
  exact (Option.some.inj h).symm

theorem enqueueHead_of_lt {queue : MessageQueue} (mb : MessageBlock Byte)
    (h : queue.curBytes < MessageQueue.highWaterMark) :
    MessageQueue.enqueueHead queue mb = some (mb :: queue) := by
  have hroom : ¬ queue.isFull = true := by
    rw [MessageQueue.isFull, decide_eq_true_eq]
    omega
  exact if_neg hroom

theorem take_advance (mb : MessageBlock Byte) (n : ℕ) :
    mb.unread.take n ++ (mb.advance n).unread = mb.unread := by
  rw [MessageBlock.unread_advance, List.take_append_drop]

/-- **The queue is sent** behind an empty buffer. -/
theorem handleOutputQueue_moves (hrd : s.m_OutBuffer.rd = 0) (hempty : s.m_OutBuffer.unread = [])
    (htakes : second = .wouldBlock →
      MessageQueue.curBytes s.msg_queue.tail < MessageQueue.highWaterMark)
    (hok : (s.handleOutputQueue reactor second).1 ≠ .failed) :
    Moves s (s.handleOutputQueue reactor second).2 := by
  have hself : Moves s s := ⟨rfl, rfl, hrd⟩
  cases hqueue : s.msg_queue with
  | nil =>
    simp only [handleOutputQueue, hqueue] at hok ⊢
    exact hself.cancelWakeup
  | cons mblk queue =>
    have hpending : s.pending = mblk.unread ++ MessageQueue.unread queue := by
      rw [pending, hempty, hqueue, List.nil_append, unread_cons]
    simp only [handleOutputQueue, hqueue] at hok ⊢
    cases second with
    | error => exact absurd rfl hok
    | wouldBlock =>
      -- the queue takes the block back
      have hback : MessageQueue.enqueueHead queue mblk = some (mblk :: queue) := by
        refine enqueueHead_of_lt mblk ?_
        have := htakes rfl
        rwa [hqueue] at this
      simp only [hback, Option.getD_some]
      refine Moves.scheduleWakeup ⟨?_, rfl, hrd⟩
      rw [stream, stream, hpending, pending, hempty, List.nil_append, unread_cons]
    | accepted n =>
      simp only at hok ⊢
      by_cases hzero : n = 0
      · rw [if_pos hzero] at hok
        exact absurd rfl hok
      · rw [if_neg hzero] at hok ⊢
        by_cases hpart : n < mblk.length
        · rw [if_pos hpart] at hok ⊢
          cases hback : MessageQueue.enqueueHead queue (mblk.advance n) with
          | none =>
            simp only [hback] at hok
            exact absurd rfl hok
          | some queue' =>
            obtain rfl := enqueueHead_eq hback
            refine Moves.scheduleWakeup ⟨?_, rfl, hrd⟩
            rw [stream, stream, hpending, pending, hempty, List.nil_append, unread_cons,
              List.append_assoc, ← List.append_assoc (mblk.unread.take n), take_advance]
        · rw [if_neg hpart] at hok ⊢
          have hwhole : mblk.unread.take n = mblk.unread :=
            List.take_of_length_le (Nat.not_lt.mp hpart)
          have hmoved : Moves s { s with
              msg_queue := queue, accepted := s.accepted ++ mblk.unread.take n } := by
            refine ⟨?_, rfl, hrd⟩
            rw [stream, stream, hpending, pending, hempty, List.nil_append, hwhole,
              List.append_assoc]
          split_ifs
          · exact hmoved.cancelWakeup
          · exact hmoved

theorem handleOutput_moves (hrd : s.m_OutBuffer.rd = 0)
    (htakes : s.TakesBack (.handleOutput reactor first second))
    (hok : (s.handleOutput reactor first second).1 ≠ .failed) :
    Moves s (s.handleOutput reactor first second).2 := by
  have hself : Moves s s := ⟨rfl, rfl, hrd⟩
  unfold handleOutput at hok ⊢
  by_cases hclosing : s.closing_ = true
  · rw [if_pos hclosing] at hok
    exact absurd rfl hok
  · rw [if_neg hclosing] at hok ⊢
    rw [Bool.not_eq_true] at hclosing
    by_cases hempty : s.m_OutBuffer.length = 0
    · rw [if_pos hempty] at hok ⊢
      exact handleOutputQueue_moves hrd (List.eq_nil_of_length_eq_zero hempty)
        (htakes ⟨hclosing, .inl hempty⟩) hok
    · rw [if_neg hempty] at hok ⊢
      cases first with
      | error => exact absurd rfl hok
      | wouldBlock => exact hself.scheduleWakeup
      | accepted n =>
        simp only at hok ⊢
        by_cases hzero : n = 0
        · rw [if_pos hzero] at hok
          exact absurd rfl hok
        · rw [if_neg hzero] at hok ⊢
          by_cases hpart : n < s.m_OutBuffer.length
          · rw [if_pos hpart] at hok ⊢
            refine Moves.scheduleWakeup ⟨?_, rfl, rfl⟩
            rw [stream, stream, pending, pending, MessageBlock.unread_crunch, List.append_assoc,
              ← List.append_assoc (s.m_OutBuffer.unread.take n), take_advance]
          · rw [if_neg hpart] at hok ⊢
            have hwhole : s.m_OutBuffer.unread.take n = s.m_OutBuffer.unread :=
              List.take_of_length_le (Nat.not_lt.mp hpart)
            have hqueue := handleOutputQueue_moves (s := { s with
              accepted := s.accepted ++ s.m_OutBuffer.unread.take n
              m_OutBuffer := s.m_OutBuffer.reset }) rfl rfl
              (htakes ⟨hclosing, .inr ⟨n, rfl, Nat.not_lt.mp hpart⟩⟩) hok
            refine ⟨hqueue.stream.trans ?_, hqueue.m_Crypt, hqueue.rd⟩
            rw [stream, stream, pending, pending, hwhole, MessageBlock.reset,
              MessageBlock.unread_new, List.nil_append, List.append_assoc]

/-- **A packet is sent**: its header, encrypted, and its payload. -/
theorem sendPacket_grows (hrd : s.m_OutBuffer.rd = 0)
    (hok : (s.sendPacket encryptByte pct).1 ≠ .failed) :
    (s.sendPacket encryptByte pct).2.stream =
        s.stream ++ (Operation.encoded encryptByte s.m_Crypt (.sendPacket pct)).1 ∧
      (s.sendPacket encryptByte pct).2.m_Crypt =
        (Operation.encoded encryptByte s.m_Crypt (.sendPacket pct)).2 ∧
      (s.sendPacket encryptByte pct).2.m_OutBuffer.rd = 0 := by
  have hlength := encryptSend_length encryptByte s.m_Crypt pct.header.header
  rw [ServerPacket.header, ServerPktHeader.header_length, ← ServerPacket.header] at hlength
  unfold sendPacket Operation.encoded at *
  cases hclosing : s.closing_ with
  | true =>
    rw [hclosing, if_pos rfl] at hok
    exact absurd rfl hok
  | false =>
    rcases hencrypt : encryptSend encryptByte s.m_Crypt pct.header.header with ⟨bytes, crypt⟩
    rw [hencrypt] at hlength
    simp only [hclosing, hencrypt, Bool.false_eq_true, if_false] at hok hlength ⊢
    by_cases hroom : s.m_OutBuffer.space ≥ pct.payload.length + pct.header.getHeaderLength ∧
        s.msg_queue = []
    · -- to the buffer
      obtain ⟨block, block', hcopy, hcopy', -, hrd', hunread⟩ :=
        copy_copy s.m_OutBuffer bytes pct.payload (by omega) hrd
      rw [if_pos hroom]
      simp only [hcopy, hcopy']
      refine ⟨?_, trivial, hrd'⟩
      rw [stream, stream, pending, pending, hunread, hroom.2]
      simp [MessageQueue.unread]
    · -- to the queue
      obtain ⟨block, block', hcopy, hcopy', -, -, hunread⟩ :=
        copy_copy (.new (pct.payload.length + pct.header.getHeaderLength)) bytes pct.payload
          (by rw [MessageBlock.space_new]; omega) rfl
      rw [if_neg hroom] at hok ⊢
      simp only [hcopy, hcopy', Option.getD_some] at hok ⊢
      cases htail : MessageQueue.enqueueTail s.msg_queue block' with
      | none =>
        simp only [htail] at hok
        exact absurd rfl hok
      | some queue =>
        rw [MessageQueue.enqueueTail] at htail
        split_ifs at htail
        cases htail
        refine ⟨?_, rfl, hrd⟩
        rw [stream, stream, pending, pending, unread_append, hunread, MessageBlock.unread_new,
          List.nil_append]
        simp only [List.append_assoc]

/-! ## Runs -/

theorem step_failed {op : Operation κ} (h : s.failed = true) :
    (step encryptByte s op).failed = true := by
  cases op with
  | sendPacket pct => simp [step, noted, h]
  | handleOutput reactor first second => simp [step, noted, h]
  | initCrypt crypt => exact h
  | closeSocket => exact h

theorem run_failed (ops : List (Operation κ)) (h : s.failed = true) :
    (run (step encryptByte) s ops).failed = true := by
  induction ops generalizing s with
  | nil => exact h
  | cons op ops ih => exact ih (step_failed h)

theorem noted_failed {called : CallResult × SocketOutput κ}
    (h : (s.noted called).failed = false) : called.1 ≠ .failed := by
  rintro hfailed
  simp [noted, hfailed] at h

theorem step_stream {op : Operation κ} (hrd : s.m_OutBuffer.rd = 0) (htakes : s.TakesBack op)
    (hok : (step encryptByte s op).failed = false) :
    (step encryptByte s op).stream =
        s.stream ++ (Operation.encoded encryptByte s.m_Crypt op).1 ∧
      (step encryptByte s op).m_Crypt = (Operation.encoded encryptByte s.m_Crypt op).2 ∧
      (step encryptByte s op).m_OutBuffer.rd = 0 := by
  cases op with
  | sendPacket pct => exact sendPacket_grows hrd (noted_failed hok)
  | handleOutput reactor first second =>
    have hmoves := handleOutput_moves hrd htakes (noted_failed hok)
    exact ⟨hmoves.stream.trans (List.append_nil _).symm, hmoves.m_Crypt, hmoves.rd⟩
  | initCrypt crypt => exact ⟨(List.append_nil _).symm, rfl, hrd⟩
  | closeSocket => exact ⟨(List.append_nil _).symm, rfl, hrd⟩

theorem run_stream {ops : List (Operation κ)} (hrd : s.m_OutBuffer.rd = 0)
    (htakes : Admissible (step encryptByte) TakesBack s ops)
    (hok : (run (step encryptByte) s ops).failed = false) :
    (run (step encryptByte) s ops).stream = s.stream ++ encoded encryptByte s.m_Crypt ops := by
  induction ops generalizing s with
  | nil => exact (List.append_nil _).symm
  | cons op ops ih =>
    have hstep : (step encryptByte s op).failed = false := by
      rw [← Bool.not_eq_true]
      intro hfailed
      rw [run_cons, run_failed ops hfailed] at hok
      cases hok
    obtain ⟨hstream, hcrypt, hrd'⟩ := step_stream hrd htakes.1 hstep
    rw [run_cons, ih hrd' htakes.2 hok, hstream, hcrypt, List.append_assoc]
    rfl

/-- **Outgoing bytes keep their order**: as long as no call has failed, the bytes that the system
has accepted, those in the buffer and those in the queue are the packets that were sent, one after
another, in every run in which the queue takes its head back. -/
theorem sent_in_order (encryptByte : EncryptByte κ) (crypt : κ) (m_OutBufferSize : ℕ)
    (ops : List (Operation κ))
    (htakes : Admissible (step encryptByte) TakesBack (.new crypt m_OutBufferSize) ops)
    (hok : (run (step encryptByte) (.new crypt m_OutBufferSize) ops).failed = false) :
    (run (step encryptByte) (.new crypt m_OutBufferSize) ops).accepted ++
        (run (step encryptByte) (.new crypt m_OutBufferSize) ops).m_OutBuffer.unread ++
        MessageQueue.unread (run (step encryptByte) (.new crypt m_OutBufferSize) ops).msg_queue =
      encoded encryptByte crypt ops := by
  rw [List.append_assoc]
  exact run_stream rfl htakes hok

/-- A packet goes to the buffer and another to the queue, and both are sent in parts. -/
theorem sent_in_order_inParts :
    let encryptByte : EncryptByte Byte := fun crypt b => (b ^^^ crypt, crypt + 1)
    let ops : List (Operation Byte) :=
      [.sendPacket ⟨0x1F6, [7]⟩, .sendPacket ⟨0x1F6, [8, 9]⟩,
        .handleOutput true (.accepted 3) .wouldBlock,
        .handleOutput true (.accepted 2) (.accepted 4),
        .handleOutput true .wouldBlock .wouldBlock]
    (run (step encryptByte) (.new 1 8) ops).accepted ++
        (run (step encryptByte) (.new 1 8) ops).m_OutBuffer.unread ++
        MessageQueue.unread (run (step encryptByte) (.new 1 8) ops).msg_queue =
      encoded encryptByte 1 ops :=
  sent_in_order _ 1 8 _
    ⟨trivial, trivial, fun _ _ => by decide, fun _ _ => by decide, fun _ _ => by decide, trivial⟩
    (by decide)

/-! ## A block that is not taken back -/

/-- A packet that does not fit in the buffer, or comes behind another one, goes to the queue. -/
theorem step_sendPacket_queue (encryptByte : EncryptByte κ) (hclosing : s.closing_ = false)
    (hroom : ¬ (s.m_OutBuffer.space ≥ pct.payload.length + pct.header.getHeaderLength ∧
      s.msg_queue = []))
    (hfull : s.msg_queue.curBytes < MessageQueue.highWaterMark) :
    ∃ mb : MessageBlock Byte, mb.size = pct.payload.length + pct.header.getHeaderLength ∧
      mb.unread.length = mb.size ∧
      step encryptByte s (.sendPacket pct) =
        { s with
          m_Crypt := (encryptSend encryptByte s.m_Crypt pct.header.header).2
          msg_queue := s.msg_queue ++ [mb] } := by
  have hlength := encryptSend_length encryptByte s.m_Crypt pct.header.header
  rw [ServerPacket.header, ServerPktHeader.header_length, ← ServerPacket.header] at hlength
  obtain ⟨block, mb, hcopy, hcopy', hsize, -, hunread⟩ :=
    copy_copy (.new (pct.payload.length + pct.header.getHeaderLength))
      (encryptSend encryptByte s.m_Crypt pct.header.header).1 pct.payload
      (by rw [MessageBlock.space_new]; omega) rfl
  have htail : MessageQueue.enqueueTail s.msg_queue mb = some (s.msg_queue ++ [mb]) := by
    have hnotFull : ¬ s.msg_queue.isFull = true := by
      rw [MessageQueue.isFull, decide_eq_true_eq]
      omega
    exact if_neg hnotFull
  refine ⟨mb, hsize, ?_, ?_⟩
  · rw [hunread, hsize, MessageBlock.unread_new, List.nil_append, List.length_append, hlength]
    exact Nat.add_comm _ _
  · simp only [step, sendPacket, hclosing, Bool.false_eq_true, if_false, if_neg hroom, hcopy,
      hcopy', Option.getD_some, htail]
    simp [noted]

/-- A packet of so many zeros. -/
def zeros (n : ℕ) : ServerPacket := ⟨0x1F6, List.replicate n 0⟩

theorem zeros_size (n : ℕ) (hlarge : ServerPktHeader.isLargePacket (BitVec.ofNat 32 (n + 2))) :
    (zeros n).payload.length + (zeros n).header.getHeaderLength = n + 5 := by
  rw [ServerPacket.header, ServerPktHeader.getHeaderLength, ServerPktHeader.new, zeros,
    List.length_replicate]
  exact congrArg (n + ·) (congrArg (2 + ·) (if_pos hlarge))

/-- A socket with an empty buffer, and some blocks in the queue. -/
def waiting (queue : MessageQueue) : SocketOutput Unit :=
  { SocketOutput.new () 65536 with msg_queue := queue }

theorem step_zeros (encryptByte : EncryptByte Unit) (queue : MessageQueue) {n : ℕ}
    (hlarge : ServerPktHeader.isLargePacket (BitVec.ofNat 32 (n + 2)))
    (hroom : 65536 < n + 5) (hfull : queue.curBytes < MessageQueue.highWaterMark) :
    ∃ mb : MessageBlock Byte, mb.size = n + 5 ∧ mb.unread.length = n + 5 ∧
      step encryptByte (waiting queue) (.sendPacket (zeros n)) = waiting (queue ++ [mb]) := by
  have hsize := zeros_size n hlarge
  have hroom' : ¬ ((waiting queue).m_OutBuffer.space ≥
      (zeros n).payload.length + (zeros n).header.getHeaderLength ∧
        (waiting queue).msg_queue = []) := by
    rw [hsize]
    rintro ⟨hspace, -⟩
    exact absurd hspace (Nat.not_le.mpr hroom)
  obtain ⟨mb, hmb, hunread, hstep⟩ :=
    step_sendPacket_queue (s := waiting queue) encryptByte rfl hroom' hfull
  exact ⟨mb, hmb.trans hsize, hunread.trans (hmb.trans hsize), hstep⟩

theorem step_wouldBlock (encryptByte : EncryptByte Unit) {mb : MessageBlock Byte}
    {queue : MessageQueue} (hfull : MessageQueue.highWaterMark ≤ queue.curBytes) :
    step encryptByte (waiting (mb :: queue)) (.handleOutput true .wouldBlock .wouldBlock) =
      waiting queue := by
  have hback : MessageQueue.enqueueHead queue mb = none :=
    if_pos (decide_eq_true_eq.mpr hfull)
  have hcall : (waiting (mb :: queue)).handleOutput true .wouldBlock .wouldBlock =
      (waiting queue).scheduleWakeupOutput true := by
    change (waiting (mb :: queue)).handleOutputQueue true .wouldBlock = _
    simp only [handleOutputQueue, waiting, hback, Option.getD_none]
  rw [step, hcall]
  rfl

theorem encoded_zeros_length (encryptByte : EncryptByte Unit) {n : ℕ}
    (hlarge : ServerPktHeader.isLargePacket (BitVec.ofNat 32 (n + 2)))
    (ops : List (Operation Unit)) :
    (encoded encryptByte () (.sendPacket (zeros n) :: ops)).length =
      n + 5 + (encoded encryptByte () ops).length := by
  have hlength := encryptSend_length encryptByte () (zeros n).header.header
  rw [ServerPacket.header, ServerPktHeader.header_length, ← ServerPacket.header] at hlength
  have hsize := zeros_size n hlarge
  rw [encoded]
  simp only [Operation.encoded, List.length_append, hlength]
  rw [Nat.add_comm _ (zeros n).payload.length, hsize]

/-- Three packets are sent, and the system cannot take any of them. -/
def blocked : List (Operation Unit) :=
  [.sendPacket (zeros 65536), .sendPacket (zeros 8300000), .sendPacket (zeros 100000),
    .handleOutput true .wouldBlock .wouldBlock]

/-- **The head of a full queue is lost**: no call fails, and the first packet is gone. -/
theorem blocked_head_lost :
    (run (step fun _ b => (b, ())) (.new () 65536) blocked).failed = false ∧
      (run (step fun _ b => (b, ())) (.new () 65536) blocked).accepted ++
        (run (step fun _ b => (b, ())) (.new () 65536) blocked).m_OutBuffer.unread ++
        MessageQueue.unread (run (step fun _ b => (b, ())) (.new () 65536) blocked).msg_queue ≠
      encoded (fun _ b => (b, ())) () blocked := by
  have hfirst : ServerPktHeader.isLargePacket (BitVec.ofNat 32 (65536 + 2)) := by decide
  have hsecond : ServerPktHeader.isLargePacket (BitVec.ofNat 32 (8300000 + 2)) := by decide
  have hthird : ServerPktHeader.isLargePacket (BitVec.ofNat 32 (100000 + 2)) := by decide
  generalize (fun (_ : Unit) (b : Byte) => (b, ())) = encryptByte
  obtain ⟨first, hsize, -, hstep⟩ := step_zeros encryptByte [] hfirst (by decide) (by decide)
  obtain ⟨second, hsize', hunread', hstep'⟩ := step_zeros encryptByte [first] hsecond
    (by decide) (by simp [MessageQueue.curBytes, MessageQueue.highWaterMark, hsize])
  obtain ⟨third, hsize'', hunread'', hstep''⟩ := step_zeros encryptByte [first, second] hthird
    (by decide) (by simp [MessageQueue.curBytes, MessageQueue.highWaterMark, hsize, hsize'])
  -- the other two blocks come to the mark
  have hfull : MessageQueue.highWaterMark ≤ MessageQueue.curBytes [second, third] := by
    simp [MessageQueue.curBytes, MessageQueue.highWaterMark, hsize', hsize'']
  have hrun : run (step encryptByte) (.new () 65536) blocked = waiting [second, third] := by
    change run (step encryptByte) (waiting []) blocked = _
    rw [blocked, run_cons, hstep, run_cons, List.nil_append, hstep', run_cons,
      List.singleton_append, hstep'', run_cons, run_nil]
    exact step_wouldBlock encryptByte hfull
  rw [hrun]
  refine ⟨rfl, fun heq => ?_⟩
  have hlength := congrArg List.length heq
  rw [blocked, encoded_zeros_length encryptByte hfirst, encoded_zeros_length encryptByte hsecond,
    encoded_zeros_length encryptByte hthird] at hlength
  have hwaits : (MessageQueue.unread [second, third]).length = 8300005 + 100005 := by
    simp [MessageQueue.unread, hunread', hunread'']
  change (MessageQueue.unread [second, third]).length = _ at hlength
  rw [hwaits] at hlength
  omega

end SocketOutput

end TeraCore.Server
