import TeraCore.Server.WorldSocketInput

/-!
# World sockets: framing

The packets that a socket hands on are those of the whole stream, however it comes in pieces.

In between there is a framer, which takes one byte at a time.  To take the pieces of a stream one
after another is to take its bytes one after another; and what the input functions make of a piece,
with their blocks to fill, is what the framer makes of its bytes.

## Main results

* `feeds_frame`: the framer frames a stream
* `SocketInput.loop_shows`: the input functions make of a piece what the framer makes of it
* `SocketInput.receive_frame`: the packets do not depend on the pieces
-/

namespace TeraCore.Server

open Commons

variable {ε : Type}

/-! ## The packets of a stream -/

/-- What becomes of a stream: its packets, whether there was an error, and what is around it. -/
structure Framing (ε : Type) where
  packets : List ClientPacket
  failed : Bool
  env : ε

/-- **The framing of a stream**: headers of six bytes, decrypted, with the size of the payload; it
ends with the first header that is not valid or the first packet that is not processed, and with a
packet that is not whole. -/
def frame (peer : Peer ε) (env : ε) (stream : List Byte) : Framing ε :=
  if _hshort : stream.length < 6 then ⟨[], false, env⟩
  else
    let (bytes, env) := peer.decryptRecv env (stream.take 6)
    let header := ClientPktHeader.read bytes
    if header.malformed then ⟨[], true, env⟩
    else
      let size := header.size - 4
      let rest := stream.drop 6
      if rest.length < size then ⟨[], false, env⟩
      else
        let packet := ⟨header.cmd, rest.take size⟩
        let (ok, env) := peer.processIncoming env packet
        if ok then
          let framing := frame peer env (rest.drop size)
          { framing with packets := packet :: framing.packets }
        else ⟨[packet], true, env⟩
termination_by stream.length
decreasing_by
  simp only [List.length_drop]
  omega

/-! ## The framer -/

/-- What a framer waits for: the rest of a header, or of a payload; or it has stopped. -/
inductive Pending where
  | header (bytes : List Byte)
  | payload (opcode size : ℕ) (bytes : List Byte)
  | stopped
  deriving DecidableEq

structure Framer (ε : Type) where
  env : ε
  pending : Pending
  handed : List ClientPacket

namespace Framer

variable {peer : Peer ε} {f : Framer ε} {l bytes : List Byte} {opcode size : ℕ}

def new (env : ε) : Framer ε := ⟨env, .header [], []⟩

/-- A packet is whole. -/
def hand (peer : Peer ε) (f : Framer ε) (packet : ClientPacket) : Framer ε :=
  let (ok, env) := peer.processIncoming f.env packet
  ⟨env, if ok then .header [] else .stopped, f.handed ++ [packet]⟩

/-- A header is whole. -/
def opened (peer : Peer ε) (f : Framer ε) (bytes : List Byte) : Framer ε :=
  let (bytes, env) := peer.decryptRecv f.env bytes
  let header := ClientPktHeader.read bytes
  if header.malformed then { f with env := env, pending := .stopped }
  else if header.size - 4 = 0 then hand peer { f with env := env } ⟨header.cmd, []⟩
  else { f with env := env, pending := .payload header.cmd (header.size - 4) [] }

/-- **The framer takes a byte.** -/
def feed (peer : Peer ε) (f : Framer ε) (b : Byte) : Framer ε :=
  match f.pending with
  | .header bytes =>
    if (bytes ++ [b]).length < 6 then { f with pending := .header (bytes ++ [b]) }
    else f.opened peer (bytes ++ [b])
  | .payload opcode size bytes =>
    if (bytes ++ [b]).length < size then { f with pending := .payload opcode size (bytes ++ [b]) }
    else f.hand peer ⟨opcode, bytes ++ [b]⟩
  | .stopped => f

/-- The framer takes some bytes. -/
def feeds (peer : Peer ε) (f : Framer ε) (l : List Byte) : Framer ε := l.foldl (feed peer) f

@[simp] theorem feeds_nil : f.feeds peer [] = f := rfl

theorem feeds_append (l l' : List Byte) : f.feeds peer (l ++ l') = (f.feeds peer l).feeds peer l' :=
  List.foldl_append

theorem feeds_stopped (h : f.pending = .stopped) (l : List Byte) : f.feeds peer l = f := by
  induction l with
  | nil => rfl
  | cons b l ih =>
    have hfeed : f.feed peer b = f := by rw [feed, h]
    change (f.feed peer b).feeds peer l = f
    rw [hfeed, ih]

theorem feeds_header (h : f.pending = .header bytes) (hl : (bytes ++ l).length < 6) :
    f.feeds peer l = { f with pending := .header (bytes ++ l) } := by
  induction l generalizing f bytes with
  | nil => rw [List.append_nil, ← h, feeds_nil]
  | cons b l ih =>
    have hsplit : bytes ++ b :: l = bytes ++ [b] ++ l := by simp
    rw [hsplit] at hl ⊢
    have hshort : (bytes ++ [b]).length < 6 := by
      rw [List.length_append] at hl
      omega
    have hfeed : f.feed peer b = { f with pending := .header (bytes ++ [b]) } := by
      rw [feed, h]
      exact if_pos hshort
    change (f.feed peer b).feeds peer l = _
    rw [hfeed, ih rfl hl]

theorem feeds_opened (h : f.pending = .header bytes) (hshort : bytes.length < 6)
    (hl : (bytes ++ l).length = 6) : f.feeds peer l = f.opened peer (bytes ++ l) := by
  obtain ⟨l, b, rfl⟩ : ∃ l' b, l = l' ++ [b] := by
    rcases List.eq_nil_or_concat l with rfl | ⟨l', b, hconcat⟩
    · rw [List.append_nil] at hl
      omega
    · exact ⟨l', b, by rw [hconcat, List.concat_eq_append]⟩
  rw [← List.append_assoc] at hl ⊢
  have hpart : (bytes ++ l).length < 6 := by
    rw [List.length_append, List.length_singleton] at hl
    omega
  rw [feeds_append, feeds_header h hpart]
  exact if_neg (by rw [hl]; omega)

theorem feeds_payload (h : f.pending = .payload opcode size bytes)
    (hl : (bytes ++ l).length < size) :
    f.feeds peer l = { f with pending := .payload opcode size (bytes ++ l) } := by
  induction l generalizing f bytes with
  | nil => rw [List.append_nil, ← h, feeds_nil]
  | cons b l ih =>
    have hsplit : bytes ++ b :: l = bytes ++ [b] ++ l := by simp
    rw [hsplit] at hl ⊢
    have hshort : (bytes ++ [b]).length < size := by
      rw [List.length_append] at hl
      omega
    have hfeed : f.feed peer b = { f with pending := .payload opcode size (bytes ++ [b]) } := by
      rw [feed, h]
      exact if_pos hshort
    change (f.feed peer b).feeds peer l = _
    rw [hfeed, ih rfl hl]

theorem feeds_hand (h : f.pending = .payload opcode size bytes) (hshort : bytes.length < size)
    (hl : (bytes ++ l).length = size) : f.feeds peer l = f.hand peer ⟨opcode, bytes ++ l⟩ := by
  obtain ⟨l, b, rfl⟩ : ∃ l' b, l = l' ++ [b] := by
    rcases List.eq_nil_or_concat l with rfl | ⟨l', b, hconcat⟩
    · rw [List.append_nil] at hl
      omega
    · exact ⟨l', b, by rw [hconcat, List.concat_eq_append]⟩
  rw [← List.append_assoc] at hl ⊢
  have hpart : (bytes ++ l).length < size := by
    rw [List.length_append, List.length_singleton] at hl
    omega
  rw [feeds_append, feeds_payload h hpart]
  exact if_neg (by rw [hl]; omega)

theorem hand_pending (pending : Pending) (packet : ClientPacket) :
    hand peer { f with pending := pending } packet = f.hand peer packet := rfl

theorem opened_of_malformed
    (hbad : (ClientPktHeader.read (peer.decryptRecv f.env bytes).1).malformed = true) :
    f.opened peer bytes =
      { f with env := (peer.decryptRecv f.env bytes).2, pending := .stopped } := by
  rw [opened]
  exact if_pos hbad

theorem opened_of_valid
    (hgood : (ClientPktHeader.read (peer.decryptRecv f.env bytes).1).malformed = false) :
    f.opened peer bytes =
      if (ClientPktHeader.read (peer.decryptRecv f.env bytes).1).size - 4 = 0 then
        hand peer { f with env := (peer.decryptRecv f.env bytes).2 }
          ⟨(ClientPktHeader.read (peer.decryptRecv f.env bytes).1).cmd, []⟩
      else
        { f with
          env := (peer.decryptRecv f.env bytes).2
          pending := .payload (ClientPktHeader.read (peer.decryptRecv f.env bytes).1).cmd
            ((ClientPktHeader.read (peer.decryptRecv f.env bytes).1).size - 4) [] } := by
  rw [opened]
  exact if_neg (by simp [hgood])

/-- **A header that is valid, and its payload.** -/
theorem feeds_packet (peer : Peer ε) (f : Framer ε) (cmd : ℕ) {rest : List Byte}
    (hrest : size ≤ rest.length) :
    (if size = 0 then f.hand peer ⟨cmd, []⟩
      else { f with pending := .payload cmd size [] }).feeds peer rest =
        (f.hand peer ⟨cmd, rest.take size⟩).feeds peer (rest.drop size) := by
  split_ifs with hsize
  · rw [hsize, List.take_zero, List.drop_zero]
  · have hlength : (rest.take size).length = size := List.length_take_of_le hrest
    have hwhole : feeds peer { f with pending := .payload cmd size [] } (rest.take size) =
        f.hand peer ⟨cmd, rest.take size⟩ := by
      rw [feeds_hand rfl (Nat.pos_of_ne_zero hsize) hlength, hand_pending, List.nil_append]
    conv_lhs => rw [← List.take_append_drop size rest]
    rw [feeds_append, hwhole]

theorem feeds_frame (peer : Peer ε) (f : Framer ε) (stream : List Byte)
    (hpending : f.pending = .header []) :
    (f.feeds peer stream).handed = f.handed ++ (frame peer f.env stream).packets ∧
      ((f.feeds peer stream).pending = .stopped ↔ (frame peer f.env stream).failed = true) ∧
      (f.feeds peer stream).env = (frame peer f.env stream).env := by
  induction hn : stream.length using Nat.strong_induction_on generalizing f stream with
  | _ n ih =>
    rw [frame]
    by_cases hshort : stream.length < 6
    · rw [dif_pos hshort, feeds_header hpending (by simpa using hshort)]
      simp
    · rw [dif_neg hshort]
      have hsix : (stream.take 6).length = 6 := List.length_take_of_le (Nat.not_lt.mp hshort)
      have hopened : f.feeds peer stream =
          (f.opened peer (stream.take 6)).feeds peer (stream.drop 6) := by
        conv_lhs => rw [← List.take_append_drop 6 stream]
        rw [feeds_append, feeds_opened hpending (by decide) hsix, List.nil_append]
      rw [hopened, opened]
      generalize peer.decryptRecv f.env (stream.take 6) = decrypted
      obtain ⟨bytes, env⟩ := decrypted
      dsimp only
      generalize ClientPktHeader.read bytes = header
      by_cases hbad : header.malformed = true
      · rw [if_pos hbad, if_pos hbad, feeds_stopped rfl]
        simp
      · rw [if_neg hbad, if_neg hbad]
        by_cases hpart : (stream.drop 6).length < header.size - 4
        · -- the payload is not whole
          have hsize : header.size - 4 ≠ 0 := by omega
          rw [if_pos hpart, if_neg hsize, feeds_payload rfl (by simpa using hpart)]
          simp
        · rw [if_neg hpart,
            feeds_packet peer { f with env := env } header.cmd (Nat.not_lt.mp hpart), hand]
          rcases hprocess : peer.processIncoming env
            ⟨header.cmd, (stream.drop 6).take (header.size - 4)⟩ with ⟨ok, env'⟩
          cases ok with
          | false =>
            rw [feeds_stopped rfl]
            simp only [hprocess, Bool.false_eq_true, if_false]
            simp
          | true =>
            have hrest : ((stream.drop 6).drop (header.size - 4)).length < n := by
              simp only [List.length_drop]
              omega
            obtain ⟨hhanded, hstopped, henv⟩ := ih _ hrest ⟨env', .header [], f.handed ++
              [⟨header.cmd, (stream.drop 6).take (header.size - 4)⟩]⟩ _ rfl rfl
            simp only [hprocess, if_true]
            refine ⟨?_, hstopped, henv⟩
            rw [hhanded, List.append_assoc]
            rfl

end Framer

/-! ## The input functions -/

/-- A block of some size that holds some bytes, none of them read. -/
structure Holds (block : MessageBlock Byte) (size : ℕ) (bytes : List Byte) : Prop where
  size_eq : block.size = size
  data_eq : block.data = bytes
  rd_eq : block.rd = 0

namespace Holds

variable {block : MessageBlock Byte} {size : ℕ} {bytes : List Byte}

theorem new (size : ℕ) : Holds (.new size) size [] := ⟨rfl, rfl, rfl⟩

theorem unread (h : Holds block size bytes) : block.unread = bytes := by
  rw [MessageBlock.unread, h.data_eq, h.rd_eq, List.drop_zero]

theorem space (h : Holds block size bytes) : block.space = size - bytes.length := by
  rw [MessageBlock.space, h.size_eq, h.data_eq]

theorem length (h : Holds block size bytes) : block.length = bytes.length := by
  rw [MessageBlock.length, h.unread]

theorem fill (h : Holds block size bytes) (message : List Byte) :
    Holds (SocketInput.fill block message).1 size
        (bytes ++ message.take (size - bytes.length)) ∧
      (SocketInput.fill block message).2 = message.drop (size - bytes.length) := by
  obtain ⟨n, hn, htake, hdrop, hle⟩ : ∃ n,
      (if message.length > block.space then block.space else message.length) = n ∧
        message.take n = message.take (size - bytes.length) ∧
        message.drop n = message.drop (size - bytes.length) ∧ n ≤ block.space := by
    rw [h.space]
    split_ifs with hlong
    · exact ⟨_, rfl, rfl, rfl, Nat.le_refl _⟩
    · have hshort : message.length ≤ size - bytes.length := Nat.not_lt.mp hlong
      refine ⟨_, rfl, ?_, ?_, hshort⟩
      · rw [List.take_length, List.take_of_length_le hshort]
      · rw [List.drop_length, List.drop_of_length_le hshort]
  obtain ⟨block', hcopy, hsize, hdata, hrd⟩ :=
    MessageBlock.copy_of_le (Nat.le_trans (List.length_take_le n message) hle)
  simp only [SocketInput.fill, hn, hcopy, Option.getD_some]
  refine ⟨⟨hsize.trans h.size_eq, ?_, hrd.trans h.rd_eq⟩, hdrop⟩
  rw [hdata, h.data_eq, htake]

end Holds

namespace SocketInput

/-- What the blocks hold, in between two pieces. -/
def Blocks (s : SocketInput ε) : Pending → Prop
  | .header bytes => bytes.length < 6 ∧ Holds s.m_Header 6 bytes ∧ s.m_RecvWPct = none ∧
    Holds s.m_RecvPct 0 []
  | .payload opcode size bytes => bytes.length < size ∧
    (∃ header, header.length = 6 ∧ Holds s.m_Header 6 header) ∧ s.m_RecvWPct = some opcode ∧
    Holds s.m_RecvPct size bytes
  | .stopped => True

/-- **The input shows the state of the framer.** -/
structure Shows (s : SocketInput ε) (f : Framer ε) : Prop where
  env : s.env = f.env
  handed : s.handed = f.handed
  blocks : s.Blocks f.pending

/-- What a turn of the loop comes to, for a framer: it has taken some of the bytes and goes on, or
all of them, and waits for more or has stopped. -/
def Turn.Shows (peer : Peer ε) (f : Framer ε) (message : List Byte) : Turn ε → Prop
  | .goOn s rest => ∃ taken, message = taken ++ rest ∧ taken ≠ [] ∧
    s.Shows (f.feeds peer taken) ∧ (f.feeds peer taken).pending = .header []
  | .return .wouldBlock s => s.Shows (f.feeds peer message) ∧
    (f.feeds peer message).pending ≠ .stopped
  | .return .invalid s => s.Shows (f.feeds peer message) ∧
    (f.feeds peer message).pending = .stopped
  | .return _ _ => False

variable (peer : Peer ε) {s : SocketInput ε} {f : Framer ε} {message bytes : List Byte}
  {opcode size : ℕ}

theorem Turn.shows_of_taken {taken rest : List Byte} {ok : Bool}
    (hmessage : message = taken ++ rest) (htaken : taken ≠ [])
    (hshows : s.Shows (f.feeds peer taken))
    (hpending : (f.feeds peer taken).pending = if ok then .header [] else .stopped) :
    (if ok then Turn.goOn s rest else .return .invalid s).Shows peer f message := by
  subst hmessage
  cases ok with
  | true => exact ⟨taken, rfl, htaken, hshows, hpending⟩
  | false =>
    have hstopped : (f.feeds peer taken).pending = .stopped := hpending
    have hfeeds : f.feeds peer (taken ++ rest) = f.feeds peer taken := by
      rw [Framer.feeds_append, Framer.feeds_stopped hstopped]
    change s.Shows (f.feeds peer (taken ++ rest)) ∧ (f.feeds peer (taken ++ rest)).pending = _
    rw [hfeeds]
    exact ⟨hshows, hstopped⟩

theorem handleInputPayload_eq (henv : s.env = f.env) (hhanded : s.handed = f.handed)
    (hheader : s.m_Header.space = 0) (hsize : s.m_Header.size = 6)
    (hopcode : s.m_RecvWPct = some opcode) (hpayload : Holds s.m_RecvPct bytes.length bytes) :
    ∃ (ok : Bool) (s' : SocketInput ε), s.handleInputPayload peer = .ok (ok, s') ∧
      s'.Shows (f.hand peer ⟨opcode, bytes⟩) ∧
      (f.hand peer ⟨opcode, bytes⟩).pending = if ok then .header [] else .stopped := by
  rcases hprocess : peer.processIncoming f.env ⟨opcode, bytes⟩ with ⟨ok, env⟩
  have hspace : s.m_RecvPct.space = 0 := by rw [hpayload.space, Nat.sub_self]
  refine ⟨ok, ⟨env, s.m_Header.reset, none, .new 0, s.handed ++ [⟨opcode, bytes⟩]⟩, ?_, ?_, ?_⟩
  · rw [handleInputPayload, if_neg (not_not.mpr hspace), if_neg (not_not.mpr hheader), hopcode]
    simp only [hpayload.unread, henv, hprocess]
  · refine ⟨?_, ?_, ?_⟩
    · simp [Framer.hand, hprocess]
    · simp [Framer.hand, hprocess, hhanded]
    · simp only [Framer.hand, hprocess]
      cases ok with
      | true =>
        refine ⟨by decide, ?_, rfl, Holds.new 0⟩
        rw [MessageBlock.reset, hsize]
        exact Holds.new 6
      | false => trivial
  · simp [Framer.hand, hprocess]

section

variable (henv : s.env = f.env) (hhanded : s.handed = f.handed)
  (hheader : ∃ header, header.length = 6 ∧ Holds s.m_Header 6 header)
  (hopcode : s.m_RecvWPct = some opcode) (hpayload : Holds s.m_RecvPct size bytes)
include henv hhanded hheader hopcode hpayload

theorem payloadTurn_part (hpart : (bytes ++ message).length < size) :
    ∃ s', s.payloadTurn peer message = .ok (.return .wouldBlock s') ∧
      s'.Shows { f with pending := .payload opcode size (bytes ++ message) } := by
  have hlength : bytes.length + message.length < size := by rwa [List.length_append] at hpart
  have hspace : s.m_RecvPct.space > 0 := by
    rw [hpayload.space]
    omega
  obtain ⟨hfilled, hrest⟩ := hpayload.fill message
  rw [List.take_of_length_le (by omega)] at hfilled
  rw [List.drop_of_length_le (by omega)] at hrest
  have hroom : (fill s.m_RecvPct message).1.space > 0 := by
    rw [hfilled.space]
    omega
  refine ⟨{ s with m_RecvPct := (fill s.m_RecvPct message).1 }, ?_, henv, hhanded, ?_⟩
  · rw [payloadTurn, if_neg (by simp [hopcode]), if_pos hspace]
    dsimp only
    rw [if_pos hroom, hrest]
    rfl
  · exact ⟨hpart, hheader, hopcode, hfilled⟩

theorem payloadTurn_whole (hle : bytes.length ≤ size) (hwhole : size ≤ (bytes ++ message).length) :
    ∃ (ok : Bool) (s' : SocketInput ε), s.payloadTurn peer message = .ok
        (if ok then .goOn s' (message.drop (size - bytes.length)) else .return .invalid s') ∧
      s'.Shows (f.hand peer ⟨opcode, bytes ++ message.take (size - bytes.length)⟩) ∧
      (f.hand peer ⟨opcode, bytes ++ message.take (size - bytes.length)⟩).pending =
        if ok then .header [] else .stopped := by
  rw [List.length_append] at hwhole
  obtain ⟨hfilled, hrest⟩ := hpayload.fill message
  have hlength : (bytes ++ message.take (size - bytes.length)).length = size := by
    rw [List.length_append, List.length_take_of_le (by omega)]
    omega
  -- a payload of no bytes is whole before it is filled
  obtain ⟨block, hblock, hholds⟩ : ∃ block,
      (if s.m_RecvPct.space > 0 then fill s.m_RecvPct message else (s.m_RecvPct, message)) =
        (block, message.drop (size - bytes.length)) ∧
      Holds block size (bytes ++ message.take (size - bytes.length)) := by
    split_ifs with hspace
    · exact ⟨_, Prod.ext rfl hrest, hfilled⟩
    · rw [hpayload.space] at hspace
      have hzero : size - bytes.length = 0 := by omega
      refine ⟨s.m_RecvPct, by rw [hzero, List.drop_zero], ?_⟩
      rwa [hzero, List.take_zero, List.append_nil]
  obtain ⟨header, hsix, hheader⟩ := hheader
  have hzero : s.m_Header.space = 0 := by rw [hheader.space, hsix]
  have hfull : ¬ block.space > 0 := by
    rw [hholds.space, hlength]
    omega
  have hexact : Holds block (bytes ++ message.take (size - bytes.length)).length
      (bytes ++ message.take (size - bytes.length)) :=
    ⟨hholds.size_eq.trans hlength.symm, hholds.data_eq, hholds.rd_eq⟩
  obtain ⟨ok, s', hpayload', hshows, hpending⟩ :=
    handleInputPayload_eq peer (s := { s with m_RecvPct := block }) henv hhanded hzero
      hheader.size_eq hopcode hexact
  refine ⟨ok, s', ?_, hshows, hpending⟩
  rw [payloadTurn, if_neg (by simp [hopcode]), hblock]
  dsimp only
  rw [if_neg hfull, hpayload']
  rfl

end

theorem handleInputHeader_eq {header : List Byte} (hsix : header.length = 6)
    (hheader : Holds s.m_Header 6 header) (hopcode : s.m_RecvWPct = none)
    (hpayload : Holds s.m_RecvPct 0 []) (hgood : (ClientPktHeader.read
      (peer.decryptRecv s.env header).1).malformed = false) :
    ∃ s' : SocketInput ε, s.handleInputHeader peer = .ok (true, s') ∧
      s'.env = (peer.decryptRecv s.env header).2 ∧ s'.handed = s.handed ∧
      s'.m_Header = s.m_Header ∧
      s'.m_RecvWPct = some (ClientPktHeader.read (peer.decryptRecv s.env header).1).cmd ∧
      Holds s'.m_RecvPct
        ((ClientPktHeader.read (peer.decryptRecv s.env header).1).size - 4) [] := by
  have hlength : s.m_Header.length = 6 := by rw [hheader.length, hsix]
  rw [handleInputHeader, if_neg (by simp [hopcode]), if_neg (by simp [hlength]), hheader.unread]
  dsimp only
  rw [hgood, if_neg (by decide)]
  by_cases hsize : (ClientPktHeader.read (peer.decryptRecv s.env header).1).size - 4 > 0
  · rw [if_pos hsize]
    exact ⟨_, rfl, rfl, rfl, rfl, rfl, Holds.new _⟩
  · have hzero : (ClientPktHeader.read (peer.decryptRecv s.env header).1).size - 4 = 0 := by omega
    have hspace : s.m_RecvPct.space = 0 := hpayload.space
    rw [if_neg hsize, if_neg (not_not.mpr hspace)]
    exact ⟨_, rfl, rfl, rfl, rfl, rfl, by rwa [hzero]⟩

theorem handleInputHeader_malformed {header : List Byte} (hsix : header.length = 6)
    (hheader : Holds s.m_Header 6 header) (hopcode : s.m_RecvWPct = none)
    (hbad : (ClientPktHeader.read (peer.decryptRecv s.env header).1).malformed = true) :
    s.handleInputHeader peer =
      .ok (false, { s with env := (peer.decryptRecv s.env header).2 }) := by
  have hlength : s.m_Header.length = 6 := by rw [hheader.length, hsix]
  rw [handleInputHeader, if_neg (by simp [hopcode]), if_neg (by simp [hlength]), hheader.unread]
  dsimp only
  rw [hbad, if_pos rfl]

/-! ### A turn of the loop -/

theorem payloadTurn_opened {before rest : List Byte} (hmessage : message = before ++ rest)
    (hbefore : before ≠ []) {g : Framer ε}
    (hopened : f.feeds peer before = if size = 0 then g.hand peer ⟨opcode, []⟩
      else { g with pending := .payload opcode size [] })
    (henv : s.env = g.env) (hhanded : s.handed = g.handed)
    (hheader : ∃ header, header.length = 6 ∧ Holds s.m_Header 6 header)
    (hopcode : s.m_RecvWPct = some opcode) (hpayload : Holds s.m_RecvPct size []) :
    ∃ t, s.payloadTurn peer rest = .ok t ∧ t.Shows peer f message := by
  by_cases hpart : rest.length < size
  · obtain ⟨s', hpayloadTurn, hshows⟩ :=
      payloadTurn_part peer henv hhanded hheader hopcode hpayload hpart
    rw [if_neg (by omega)] at hopened
    have hfeeds : f.feeds peer message = { g with pending := .payload opcode size rest } := by
      rw [hmessage, Framer.feeds_append, hopened, Framer.feeds_payload rfl hpart, List.nil_append]
    refine ⟨_, hpayloadTurn, ?_⟩
    simp only [Turn.Shows]
    rw [hfeeds]
    exact ⟨hshows, by simp⟩
  · have hwhole : size ≤ rest.length := Nat.not_lt.mp hpart
    obtain ⟨ok, s', hpayloadTurn, hshows, hnext⟩ := payloadTurn_whole peer henv hhanded hheader
      hopcode hpayload (Nat.zero_le size) hwhole
    have htake : (rest.take size).length = size := List.length_take_of_le hwhole
    have hfeeds : f.feeds peer (before ++ rest.take size) =
        g.hand peer ⟨opcode, rest.take size⟩ := by
      rw [Framer.feeds_append, hopened, Framer.feeds_packet peer g opcode (Nat.le_of_eq htake.symm),
        List.take_take, Nat.min_self, List.drop_of_length_le (Nat.le_of_eq htake),
        Framer.feeds_nil]
    have hsplit : message = before ++ rest.take size ++ rest.drop size := by
      rw [hmessage, List.append_assoc, List.take_append_drop]
    have htaken : before ++ rest.take size ≠ [] := List.append_ne_nil_of_left_ne_nil hbefore _
    rw [List.length_nil, Nat.sub_zero, List.nil_append, ← hfeeds] at hshows hnext
    exact ⟨_, hpayloadTurn, Turn.shows_of_taken peer hsplit htaken hshows hnext⟩

theorem turn_payload (h : s.Shows f) (hpending : f.pending = .payload opcode size bytes)
    (hmessage : message ≠ []) :
    ∃ t, s.turn peer message = .ok t ∧ t.Shows peer f message := by
  obtain ⟨hshort, hheader, hopcode, hpayload⟩ : s.Blocks (.payload opcode size bytes) :=
    hpending ▸ h.blocks
  have hturn : s.turn peer message = s.payloadTurn peer message := by
    obtain ⟨header, hsix, hheader⟩ := hheader
    have hspace : s.m_Header.space = 0 := by rw [hheader.space, hsix]
    rw [turn, headerTurn, if_neg (by rw [hspace]; decide)]
    rfl
  rw [hturn]
  by_cases hpart : (bytes ++ message).length < size
  · obtain ⟨s', hpayloadTurn, hshows⟩ :=
      payloadTurn_part peer h.env h.handed hheader hopcode hpayload hpart
    refine ⟨_, hpayloadTurn, ?_⟩
    simp only [Turn.Shows]
    rw [Framer.feeds_payload hpending hpart]
    exact ⟨hshows, by simp⟩
  · have hwhole : size ≤ (bytes ++ message).length := Nat.not_lt.mp hpart
    obtain ⟨ok, s', hpayloadTurn, hshows, hnext⟩ := payloadTurn_whole peer h.env h.handed hheader
      hopcode hpayload (Nat.le_of_lt hshort) hwhole
    rw [List.length_append] at hwhole
    have hlength : (bytes ++ message.take (size - bytes.length)).length = size := by
      rw [List.length_append, List.length_take_of_le (by omega)]
      omega
    have hhand : f.feeds peer (message.take (size - bytes.length)) = _ :=
      Framer.feeds_hand hpending hshort hlength
    have htaken : message.take (size - bytes.length) ≠ [] := by
      rw [Ne, List.take_eq_nil_iff]
      rintro (hzero | hnil)
      · omega
      · exact hmessage hnil
    rw [← hhand] at hshows hnext
    exact ⟨_, hpayloadTurn, Turn.shows_of_taken peer
      (List.take_append_drop _ message).symm htaken hshows hnext⟩

theorem turn_header (h : s.Shows f) (hpending : f.pending = .header bytes)
    (hmessage : message ≠ []) :
    ∃ t, s.turn peer message = .ok t ∧ t.Shows peer f message := by
  obtain ⟨hshort, hheader, hopcode, hpayload⟩ : s.Blocks (.header bytes) := hpending ▸ h.blocks
  have hspace : s.m_Header.space > 0 := by
    rw [hheader.space]
    omega
  obtain ⟨hfilled, hrest⟩ := hheader.fill message
  by_cases hpart : (bytes ++ message).length < 6
  · -- the header is not whole
    have hlength : bytes.length + message.length < 6 := by rwa [List.length_append] at hpart
    rw [List.take_of_length_le (by omega)] at hfilled
    rw [List.drop_of_length_le (by omega)] at hrest
    have hroom : (fill s.m_Header message).1.space > 0 := by
      rw [hfilled.space]
      omega
    refine ⟨.return .wouldBlock { s with m_Header := (fill s.m_Header message).1 }, ?_, ?_⟩
    · rw [turn, headerTurn, if_pos hspace]
      dsimp only
      rw [if_pos hroom, hrest]
      rfl
    · simp only [Turn.Shows]
      rw [Framer.feeds_header hpending hpart]
      exact ⟨⟨h.env, h.handed, hpart, hfilled, hopcode, hpayload⟩, by simp⟩
  · have hwhole : 6 ≤ bytes.length + message.length := by
      rw [List.length_append] at hpart
      omega
    have hsix : (bytes ++ message.take (6 - bytes.length)).length = 6 := by
      rw [List.length_append, List.length_take_of_le (by omega)]
      omega
    have hfull : ¬ (fill s.m_Header message).1.space > 0 := by
      rw [hfilled.space, hsix]
      decide
    have hopened : f.feeds peer (message.take (6 - bytes.length)) = _ :=
      Framer.feeds_opened hpending hshort hsix
    have htaken : message.take (6 - bytes.length) ≠ [] := by
      rw [Ne, List.take_eq_nil_iff]
      rintro (hzero | hnil)
      · omega
      · exact hmessage hnil
    obtain ⟨header, hfilled', hopened, hsix⟩ : ∃ header,
        Holds (fill s.m_Header message).1 6 header ∧
        f.feeds peer (message.take (6 - bytes.length)) = f.opened peer header ∧
        header.length = 6 :=
      ⟨_, hfilled, hopened, hsix⟩
    have hsplit := (List.take_append_drop (6 - bytes.length) message).symm
    rw [turn, headerTurn, if_pos hspace]
    dsimp only
    rw [if_neg hfull, hrest]
    rcases hbad : (ClientPktHeader.read (peer.decryptRecv s.env header).1).malformed with _ | _
    · obtain ⟨s', hgood, henv, hhanded, hblock, hcmd, hpayload'⟩ := handleInputHeader_eq peer
        (s := { s with m_Header := (fill s.m_Header message).1 }) hsix hfilled' hopcode hpayload
        hbad
      rw [h.env] at hbad
      rw [Framer.opened_of_valid hbad, ← h.env] at hopened
      rw [hgood]
      exact payloadTurn_opened peer (g := { f with env := (peer.decryptRecv s.env header).2 })
        hsplit htaken hopened henv (hhanded.trans h.handed)
        ⟨header, hsix, hblock ▸ hfilled'⟩ hcmd hpayload'
    · rw [handleInputHeader_malformed peer
        (s := { s with m_Header := (fill s.m_Header message).1 }) hsix hfilled' hopcode hbad]
      rw [h.env] at hbad
      rw [Framer.opened_of_malformed hbad, ← h.env] at hopened
      have hfeeds : f.feeds peer message =
          { f with env := (peer.decryptRecv s.env header).2, pending := .stopped } := by
        rw [hsplit, Framer.feeds_append, hopened, Framer.feeds_stopped rfl]
      refine ⟨_, rfl, ?_⟩
      simp only [Turn.Shows]
      rw [hfeeds]
      exact ⟨⟨rfl, h.handed, trivial⟩, rfl⟩

theorem turn_shows (h : s.Shows f) (hgoing : f.pending ≠ .stopped) (hmessage : message ≠ []) :
    ∃ t, s.turn peer message = .ok t ∧ t.Shows peer f message := by
  cases hpending : f.pending with
  | header bytes => exact turn_header peer h hpending hmessage
  | payload opcode size bytes => exact turn_payload peer h hpending hmessage
  | stopped => exact absurd hpending hgoing

/-! ### Pieces -/

theorem loop_shows (n : ℕ) (hlength : message.length ≤ n) (h : s.Shows f)
    (hgoing : f.pending ≠ .stopped) :
    ∃ (result : Option InputResult) (s' : SocketInput ε),
      loop peer n s message = .ok (result, s') ∧ s'.Shows (f.feeds peer message) ∧
      (result = none ∨ result = some .wouldBlock ∨ result = some .invalid) ∧
      ((f.feeds peer message).pending = .stopped ↔ result = some .invalid) := by
  induction n generalizing s f message with
  | zero =>
    obtain rfl := List.eq_nil_of_length_eq_zero (Nat.le_zero.mp hlength)
    exact ⟨none, s, rfl, h, .inl rfl, by simp [hgoing]⟩
  | succ n ih =>
    cases message with
    | nil => exact ⟨none, s, rfl, h, .inl rfl, by simp [hgoing]⟩
    | cons b l =>
      obtain ⟨t, hturn, ht⟩ := turn_shows peer h hgoing (List.cons_ne_nil b l)
      rw [loop, hturn]
      cases t with
      | goOn s' rest =>
        obtain ⟨taken, hsplit, htaken, hshows, hpending⟩ := ht
        have hrest : rest.length ≤ n := by
          have := congrArg List.length hsplit
          have := List.length_pos_of_ne_nil htaken
          rw [List.length_append] at *
          omega
        have hgoing' : (f.feeds peer taken).pending ≠ .stopped := by simp [hpending]
        obtain ⟨result, s'', hloop, hfinal⟩ := ih hrest hshows hgoing'
        rw [← Framer.feeds_append, ← hsplit] at hfinal
        exact ⟨result, s'', hloop, hfinal⟩
      | «return» result s' =>
        cases result with
        | wouldBlock => exact ⟨_, s', rfl, ht.1, .inr (.inl rfl), by simp [ht.2]⟩
        | invalid => exact ⟨_, s', rfl, ht.1, .inr (.inr rfl), by simp [ht.2]⟩
        | closed => exact ht.elim
        | wholeBuffer => exact ht.elim
        | lessThanBuffer => exact ht.elim

theorem handleInputMissingData_shows {piece : List Byte} (hpiece : piece ≠ []) (h : s.Shows f)
    (hgoing : f.pending ≠ .stopped) :
    ∃ (result : InputResult) (s' : SocketInput ε),
      s.handleInputMissingData peer piece = .ok (result, s') ∧
      s'.Shows (f.feeds peer piece) ∧ result ≠ .closed ∧
      ((f.feeds peer piece).pending = .stopped ↔ result = .invalid) := by
  obtain ⟨result, s', hloop, hshows, hresult, hstopped⟩ :=
    loop_shows peer piece.length (Nat.le_refl _) h hgoing
  rw [handleInputMissingData, if_neg (by simpa using hpiece), hloop]
  refine ⟨_, s', rfl, hshows, ?_⟩
  rw [hstopped]
  obtain rfl | rfl | rfl := hresult
  · simp only [Option.getD_none]
    split_ifs <;> simp
  · simp
  · simp

theorem receive_shows {pieces : List (List Byte)} (hpieces : ∀ piece ∈ pieces, piece ≠ [])
    (h : s.Shows f) (hgoing : f.pending ≠ .stopped) :
    ∃ (failed : Bool) (s' : SocketInput ε), s.receive peer pieces = .ok (failed, s') ∧
      s'.Shows (f.feeds peer pieces.flatten) ∧
      ((f.feeds peer pieces.flatten).pending = .stopped ↔ failed = true) := by
  induction pieces generalizing s f with
  | nil => exact ⟨false, s, rfl, h, by simp [hgoing]⟩
  | cons piece pieces ih =>
    obtain ⟨hpiece, hpieces⟩ := List.forall_mem_cons.mp hpieces
    obtain ⟨result, s', hinput, hshows, hclosed, hstopped⟩ :=
      handleInputMissingData_shows peer hpiece h hgoing
    rw [receive, hinput, List.flatten_cons, Framer.feeds_append]
    by_cases hinvalid : result = .invalid
    · -- what remains is not received, and a framer that has stopped would not take it
      have hdone := hstopped.mpr hinvalid
      rw [Framer.feeds_stopped hdone]
      refine ⟨true, s', ?_, hshows, by simp [hdone]⟩
      exact if_pos (.inl hinvalid)
    · obtain ⟨failed, s'', hreceive, hfinal⟩ := ih hpieces hshows (mt hstopped.mp hinvalid)
      refine ⟨failed, s'', ?_, hfinal⟩
      rw [← hreceive]
      exact if_neg (not_or.mpr ⟨hinvalid, hclosed⟩)

theorem new_shows (env : ε) : (new env).Shows (.new env) :=
  ⟨rfl, rfl, by decide, .new 6, rfl, .new 0⟩

/-- **The packets that are handed on are those of the stream**, however it comes in pieces: no
assertion fails, every loop ends, and there is an error if the framing says so. -/
theorem receive_frame (env : ε) {pieces : List (List Byte)}
    (hpieces : ∀ piece ∈ pieces, piece ≠ [] ∧ piece.length ≤ 4096) :
    ∃ s : SocketInput ε,
      (new env).receive peer pieces = .ok ((frame peer env pieces.flatten).failed, s) ∧
      s.handed = (frame peer env pieces.flatten).packets ∧
      s.env = (frame peer env pieces.flatten).env := by
  obtain ⟨failed, s, hreceive, hshows, hstopped⟩ := receive_shows peer
    (fun piece hpiece => (hpieces piece hpiece).1) (new_shows env) (by simp [Framer.new])
  obtain ⟨hhanded, hfailed, henv⟩ := Framer.feeds_frame peer (.new env) pieces.flatten rfl
  have hsame : failed = (frame peer env pieces.flatten).failed :=
    Bool.eq_iff_iff.mpr (hstopped.symm.trans hfailed)
  exact ⟨s, hsame ▸ hreceive, hshows.handed.trans hhanded, hshows.env.trans henv⟩

/-- A keep-alive packet without a payload, and a packet with two bytes of it, come in pieces that
end within a header and within the payload. -/
theorem receive_frame_twoPackets :
    ∃ s : SocketInput Unit,
      (new ()).receive ⟨fun _ b => (b, ()), fun _ _ => (true, ())⟩
          [[0, 4, 7], [4, 0, 0, 0, 6, 1, 0, 0], [0, 8], [9]] =
        .ok ((frame ⟨fun _ b => (b, ()), fun _ _ => (true, ())⟩ ()
          [0, 4, 7, 4, 0, 0, 0, 6, 1, 0, 0, 0, 8, 9]).failed, s) ∧
      s.handed = (frame ⟨fun _ b => (b, ()), fun _ _ => (true, ())⟩ ()
        [0, 4, 7, 4, 0, 0, 0, 6, 1, 0, 0, 0, 8, 9]).packets ∧
      s.env = (frame ⟨fun _ b => (b, ()), fun _ _ => (true, ())⟩ ()
        [0, 4, 7, 4, 0, 0, 0, 6, 1, 0, 0, 0, 8, 9]).env :=
  receive_frame _ () (by decide)

end SocketInput

end TeraCore.Server
