import CubridDriver.Rules

/-!
# The wire

A socket whose other end is a server that answers every request it has received in
full, in order, with one frame or not at all. The bytes of an answer join the stream
when the request has been sent; a read may still fail before they arrive, and then they
are there for the next one. Every socket call may fail, as `CubridDriver.Network.fate`
decides, and what the server answers is arbitrary: a property of the wire that holds for
every network holds whatever the timing and whatever the server.

Each byte of the stream carries the number of the request it answers, and the wire keeps
a record of what went over it. Neither can be seen by the client.
-/

namespace CubridDriver

/-! ### Frames -/

/-- A response frame. -/
structure Frame where
  /-- The CAS info token. -/
  casInfo : CasInfo
  /-- The body. -/
  body : List UInt8
  /-- The length fits its field. -/
  length_lt : body.length < 2 ^ 32

namespace Frame

/-- The token and the body: what a parser is given. -/
def data (frame : Frame) : List UInt8 := frame.casInfo.toList ++ frame.body

/-- The frame as it is sent. -/
def bytes (frame : Frame) : List UInt8 :=
  BigEndian.encode 4 frame.body.length ++ frame.data

@[simp] theorem length_data (frame : Frame) :
    frame.data.length = frame.body.length + SIZE_CAS_INFO := by
  rw [data, List.length_append, Nat.add_comm]
  rfl

end Frame

/-! ### Networks -/

/-- What becomes of a socket call. -/
inductive Fate
  /-- It is carried out. -/
  | done
  /-- It fails after some bytes; what has not been read is still to arrive. -/
  | late (e : IoError) (taken : ℕ)
  /-- It fails, and what has not arrived is lost. -/
  | lost (e : IoError)
  deriving DecidableEq, Repr

/-- The behaviour of the network and of the server. -/
structure Network where
  /-- The fate of each socket call, by its number. -/
  fate : ℕ → Fate
  /-- The answer to each request, by its number and its bytes. -/
  answer : ℕ → List UInt8 → Option Frame

/-- The network of a server that answers every request, on which every call is carried out. -/
def Network.ofServer (server : ℕ → List UInt8 → Frame) : Network where
  fate _ := .done
  answer number request := some (server number request)

/-- A byte of the stream, with the number of the request it answers. -/
abbrev TaggedByte : Type := ℕ × UInt8

/-- What happens on the wire. -/
inductive Event
  /-- A request has been sent in full. -/
  | sent (request : List UInt8)
  /-- Bytes have been read; the last request that had been sent is the given one. -/
  | received (number : ℕ) (request : List UInt8) (bytes : List TaggedByte)
  /-- A read has failed, with these bytes still to arrive. -/
  | failed (left : List TaggedByte)
  deriving DecidableEq, Repr

namespace Event

/-- The request, if one has been sent. -/
def request? : Event → Option (List UInt8)
  | sent request => some request
  | _ => none

/-- Bytes of a result that answer another request than the last one. What is read after
the closing of a query handle is no result. -/
def Stale : Event → Prop
  | received number request bytes =>
      functionByte request ≠ some FunctionCode.closeReqHandle.toU8 ∧ ∃ b ∈ bytes, b.1 ≠ number
  | _ => False

/-- A failed read that has left bytes to arrive. -/
def LeavesResponse : Event → Prop
  | failed left => left ≠ []
  | _ => False

end Event

/-- The requests of a trace. -/
def requests (trace : List Event) : List (List UInt8) := trace.filterMap Event.request?

/-- The wire between a client and the server. -/
structure Wire where
  /-- The network it is part of. -/
  network : Network
  /-- The number of socket calls so far. -/
  clock : ℕ
  /-- What has been answered and not been read. -/
  inbox : List TaggedByte
  /-- What has happened so far. -/
  trace : List Event

namespace Wire

/-- A new wire. -/
def new (network : Network) : Wire := ⟨network, 0, [], []⟩

/-- The number of the request that was sent last. -/
def number (w : Wire) : ℕ := (requests w.trace).length

/-- The request that was sent last. -/
def lastRequest (w : Wire) : List UInt8 := (requests w.trace).getLast?.getD []

/-- The answer to the next request, if that is `data`. -/
def answerTo (w : Wire) (data : List UInt8) : List TaggedByte :=
  match w.network.answer (w.number + 1) data with
  | some frame => frame.bytes.map fun b => (w.number + 1, b)
  | none => []

/-- A request has been sent. -/
def deliver (w : Wire) (data : List UInt8) : Wire :=
  { w with
    clock := w.clock + 1
    inbox := w.inbox ++ w.answerTo data
    trace := w.trace ++ [.sent data] }

/-- Bytes have been read. -/
def take (w : Wire) (count : ℕ) : Wire :=
  { w with
    clock := w.clock + 1
    inbox := w.inbox.drop count
    trace := w.trace ++ [.received w.number w.lastRequest (w.inbox.take count)] }

/-- A read has failed. -/
def fail (w : Wire) (left : List TaggedByte) : Wire :=
  { w with clock := w.clock + 1, inbox := left, trace := w.trace ++ [.failed left] }

/-- Send a request. A request that could not be sent in full is not answered, and what is sent
later does not complete it. -/
def writeAll (data : List UInt8) (w : Wire) : Except IoError Unit × Wire :=
  match w.network.fate w.clock with
  | .done => (.ok (), w.deliver data)
  | .late e _ => (.error e, { w with clock := w.clock + 1 })
  | .lost e => (.error e, { w with clock := w.clock + 1, inbox := [] })

theorem length_taken {w : Wire} {count : ℕ} (h : count ≤ w.inbox.length) :
    ((w.inbox.take count).map Prod.snd).length = count := by
  rw [List.length_map, List.length_take, Nat.min_eq_left h]

/-- Read from the stream. A read for which there are not enough bytes times out, having
read what there is. -/
def readExact (count : ℕ) (w : Wire) :
    Except IoError { bs : List UInt8 // bs.length = count } × Wire :=
  match w.network.fate w.clock with
  | .done =>
      if h : count ≤ w.inbox.length then
        (.ok ⟨(w.inbox.take count).map Prod.snd, length_taken h⟩, w.take count)
      else (.error .timedOut, w.fail [])
  | .late e taken => (.error e, w.fail (w.inbox.drop (min taken (count - 1))))
  | .lost e => (.error e, w.fail [])

instance : Socket Wire where
  writeAll := writeAll
  readExact := readExact

/-! ### What the calls do -/

theorem requests_deliver (w : Wire) (data : List UInt8) :
    requests (w.deliver data).trace = requests w.trace ++ [data] := List.filterMap_append

theorem requests_take (w : Wire) (count : ℕ) : requests (w.take count).trace = requests w.trace :=
  List.filterMap_append.trans (List.append_nil _)

theorem requests_fail (w : Wire) (left : List TaggedByte) :
    requests (w.fail left).trace = requests w.trace :=
  List.filterMap_append.trans (List.append_nil _)

theorem number_deliver (w : Wire) (data : List UInt8) :
    (w.deliver data).number = w.number + 1 := by
  rw [number, requests_deliver, List.length_append]
  rfl

theorem lastRequest_deliver (w : Wire) (data : List UInt8) :
    (w.deliver data).lastRequest = data := by
  rw [lastRequest, requests_deliver, List.getLast?_concat]
  rfl

theorem number_take (w : Wire) (count : ℕ) : (w.take count).number = w.number := by
  rw [number, requests_take, number]

theorem lastRequest_take (w : Wire) (count : ℕ) : (w.take count).lastRequest = w.lastRequest := by
  rw [lastRequest, requests_take, lastRequest]

theorem number_fail (w : Wire) (left : List TaggedByte) : (w.fail left).number = w.number := by
  rw [number, requests_fail, number]

/-- **How sending ends**: the request is delivered, or the call fails, and then nothing
has happened but that the bytes to arrive may be lost. -/
theorem writeAll_cases (data : List UInt8) (w : Wire) :
    writeAll data w = (.ok (), w.deliver data) ∨
      ∃ e w', writeAll data w = (.error e, w') ∧ w'.trace = w.trace ∧
        (w'.inbox = w.inbox ∨ w'.inbox = []) := by
  rw [writeAll]
  split
  · exact Or.inl rfl
  · exact Or.inr ⟨_, _, rfl, rfl, Or.inl rfl⟩
  · exact Or.inr ⟨_, _, rfl, rfl, Or.inr rfl⟩

/-- **How reading ends**: with the next bytes of the stream, or with a failure that
leaves some of the stream. -/
theorem readExact_cases (count : ℕ) (w : Wire) :
    (∃ h : count ≤ w.inbox.length,
      readExact count w = (.ok ⟨(w.inbox.take count).map Prod.snd, length_taken h⟩, w.take count)) ∨
      ∃ e k, readExact count w = (.error e, w.fail (w.inbox.drop k)) := by
  have hall : w.inbox.drop w.inbox.length = [] := List.drop_length
  rw [readExact]
  cases w.network.fate w.clock with
  | done =>
    by_cases h : count ≤ w.inbox.length
    · exact Or.inl ⟨h, dif_pos h⟩
    · exact Or.inr ⟨.timedOut, w.inbox.length, by rw [hall]; exact dif_neg h⟩
  | late e taken => exact Or.inr ⟨e, _, rfl⟩
  | lost e => exact Or.inr ⟨e, w.inbox.length, by rw [hall]⟩

/-! ### Rules for the calls -/

open Prog Connection

section Rules

variable {R E : Wire → Prop}

/-- **The rule of sending.** -/
theorem triple_sendFramed {S : Wire → Prop} {data : List UInt8} {P : Connection Wire → Prop}
    (hP : ∀ conn, P conn → R conn.stream) (hok : ∀ w, R w → S (w.deliver data))
    (herr : ∀ w w', R w → w'.trace = w.trace → w'.inbox = w.inbox ∨ w'.inbox = [] → E w') :
    Triple P (sendFramed data) (fun _ conn => S conn.stream) fun conn => E conn.stream := by
  intro conn x conn' hR hx
  have hR := hP conn hR
  have hstep : sendFramed data conn =
      some (ofIo (writeAll data conn.stream).1,
        { conn with stream := (writeAll data conn.stream).2 }) :=
    rfl
  rw [hstep] at hx
  obtain ⟨rfl, rfl⟩ := Prod.mk.inj (Option.some.inj hx)
  rcases writeAll_cases data conn.stream with h | ⟨e, w', h, htrace, hinbox⟩
  · simp only [h, ofIo]
    exact hok _ hR
  · simp only [h, ofIo]
    exact herr _ _ hR htrace hinbox

/-- **The rule of reading.** -/
theorem triple_readExactBytes {count : ℕ} {S : List UInt8 → Wire → Prop}
    (hok : ∀ w, R w → count ≤ w.inbox.length →
      S ((w.inbox.take count).map Prod.snd) (w.take count))
    (herr : ∀ w k, R w → E (w.fail (w.inbox.drop k))) :
    Triple (fun conn => R conn.stream) (readExactBytes count) (fun bs conn => S bs.1 conn.stream)
      fun conn => E conn.stream := by
  intro conn x conn' hR hx
  have hstep : readExactBytes count conn = some (ofIo (readExact count conn.stream).1,
      { conn with stream := (readExact count conn.stream).2 }) := rfl
  rw [hstep] at hx
  obtain ⟨rfl, rfl⟩ := Prod.mk.inj (Option.some.inj hx)
  rcases readExact_cases count conn.stream with ⟨hlen, h⟩ | ⟨e, k, h⟩
  · simp only [h, ofIo]
    exact hok _ hR hlen
  · simp only [h, ofIo]
    exact herr _ k hR

/-- How many bytes follow the length field at the head of the stream. -/
def frameLength (w : Wire) : ℕ :=
  BigEndian.decode ((w.inbox.take 4).map Prod.snd) + SIZE_CAS_INFO

/-- **The rule of receiving**: the length field is read, and then as many bytes as it
announces. -/
theorem triple_recvFramed {T : Bytes → Wire → Prop}
    (hok : ∀ w resp, R w → 4 ≤ w.inbox.length → w.frameLength ≤ (w.inbox.drop 4).length →
      resp.1 = ((w.inbox.drop 4).take w.frameLength).map Prod.snd →
      T resp ((w.take 4).take w.frameLength))
    (herr : ∀ w w' k, R w → w' = w ∨ w' = w.take 4 → E (w'.fail (w'.inbox.drop k))) :
    Triple (fun conn => R conn.stream) recvFramed (fun resp conn => T resp conn.stream)
      fun conn => E conn.stream := by
  refine triple_bind (Q := fun lenBuf conn => ∃ w, R w ∧ 4 ≤ w.inbox.length ∧
    BigEndian.decode lenBuf.1 + SIZE_CAS_INFO = w.frameLength ∧ conn.stream = w.take 4) ?_
    fun lenBuf => ?_
  -- the length of the frame is read; the wire it came from is kept for the second read
  · exact triple_readExactBytes (S := fun bs w' => ∃ w, R w ∧ 4 ≤ w.inbox.length ∧
      BigEndian.decode bs + SIZE_CAS_INFO = w.frameLength ∧ w' = w.take 4)
      (fun w hR hlen => ⟨w, hR, hlen, rfl, rfl⟩) fun w k hR => herr w w _ hR (Or.inl rfl)
  · refine triple_bind (Q := fun data conn => ∃ w, R w ∧ 4 ≤ w.inbox.length ∧
      w.frameLength ≤ (w.inbox.drop 4).length ∧
      data.1 = ((w.inbox.drop 4).take w.frameLength).map Prod.snd ∧
      conn.stream = (w.take 4).take w.frameLength) ?_ fun data => ?_
    · refine triple_readExactBytes
        (R := fun w' => ∃ w, R w ∧ 4 ≤ w.inbox.length ∧
          BigEndian.decode lenBuf.1 + SIZE_CAS_INFO = w.frameLength ∧ w' = w.take 4)
        (S := fun bs w' => ∃ w, R w ∧ 4 ≤ w.inbox.length ∧
          w.frameLength ≤ (w.inbox.drop 4).length ∧
          bs = ((w.inbox.drop 4).take w.frameLength).map Prod.snd ∧
          w' = (w.take 4).take w.frameLength) ?_ ?_
      · rintro _ ⟨w, hR, hlen, hn, rfl⟩ hdata
        rw [hn] at hdata ⊢
        exact ⟨w, hR, hlen, hdata, rfl, rfl⟩
      · rintro _ k ⟨w, hR, -, -, rfl⟩
        exact herr w _ _ hR (Or.inr rfl)
    · refine triple_pure ?_
      rintro conn ⟨w, hR, hlen, hn, hdata, hstream⟩
      rw [hstream]
      exact hok w _ hR hlen hn hdata

/-- **The rule of the exchange**, on the wire. -/
theorem triple_exchange {α : Type} {request : CasInfo → Outcome Error (List UInt8)}
    {parse : Bytes → Outcome ProtocolError (α × CasInfo)} (hrequest : AsksResult request)
    {S : List UInt8 → Wire → Prop} {Q : Wire → Prop}
    (hsend : ∀ w data, functionByte data ≠ some FunctionCode.closeReqHandle.toU8 → R w →
      S data (w.deliver data))
    (hsendErr : ∀ w w', R w → w'.trace = w.trace → w'.inbox = w.inbox ∨ w'.inbox = [] → E w')
    (hrecv : ∀ data w, S data w → 4 ≤ w.inbox.length → Q ((w.take 4).take w.frameLength))
    (hrecvErr : ∀ data w w' k, S data w → w' = w ∨ w' = w.take 4 →
      E (w'.fail (w'.inbox.drop k)))
    (hQ : ∀ w, Q w → E w) :
    Triple (Client.Over fun conn => R conn.stream) (Client.onConn (exchange request parse))
      (fun _ => Client.Over fun conn => Q conn.stream) (Client.Over fun conn => E conn.stream) := by
  refine triple_onConn (CubridDriver.triple_exchange (S := fun data conn => S data conn.stream)
    (T := fun _ conn => Q conn.stream) ?_ ?_ ?_ ?_ ?_)
  -- no operation but the closing of a handle sends that function code
  · intro conn data hdata
    obtain ⟨code, arguments, hcode, rfl⟩ := hrequest _ _ hdata
    refine triple_sendFramed (fun c hc => hc.1) (fun w => hsend w _ ?_) hsendErr
    rw [functionByte_framed]
    exact fun heq => hcode (FunctionCode.toU8_inj.mp (Option.some.inj heq))
  · exact fun data => triple_recvFramed (fun w _ hS hlen _ _ => hrecv data w hS hlen)
      (hrecvErr data)
  · exact fun conn hR => hsendErr conn.stream conn.stream hR rfl (Or.inl rfl)
  · exact fun _ conn => hQ conn.stream
  · exact fun _ _ _ _ _ hc => hc

/-- **The rule of closing a query handle**, on the wire. -/
theorem triple_closeQueryHandle {handle : Int32} {S : Wire → Prop}
    (hsend : ∀ w data, functionByte data = some FunctionCode.closeReqHandle.toU8 → R w →
      S (w.deliver data))
    (hsendErr : ∀ w w', R w → w'.trace = w.trace → w'.inbox = w.inbox ∨ w'.inbox = [] → E w')
    (hrecv : ∀ w, S w → 4 ≤ w.inbox.length → E ((w.take 4).take w.frameLength))
    (hrecvErr : ∀ w w' k, S w → w' = w ∨ w' = w.take 4 → E (w'.fail (w'.inbox.drop k))) :
    Triple (Client.Over fun conn => R conn.stream) (Client.closeQueryHandle handle)
      (fun _ => Client.Over fun conn => E conn.stream)
      (Client.Over fun conn => E conn.stream) := by
  refine CubridDriver.triple_closeQueryHandle (S := fun conn => S conn.stream) ?_ ?_
  · intro conn
    exact triple_sendFramed (fun c hc => hc.1) (fun w => hsend w _ (functionByte_framed _ _ _))
      hsendErr
  · exact triple_recvFramed (fun w _ hS hlen _ _ => hrecv w hS hlen) hrecvErr

end Rules

/-! ### Reading a frame -/

/-- What is recorded of a frame that has been read. -/
theorem trace_take_take (w : Wire) (m n : ℕ) :
    ((w.take m).take n).trace = w.trace ++
      [.received w.number w.lastRequest (w.inbox.take m),
        .received w.number w.lastRequest ((w.inbox.drop m).take n)] := by
  have htrace : ((w.take m).take n).trace = (w.take m).trace ++
      [.received (w.take m).number (w.take m).lastRequest ((w.take m).inbox.take n)] := rfl
  rw [htrace, number_take, lastRequest_take]
  exact List.append_assoc _ _ _

/-- The stream holds one frame and nothing else. -/
theorem frameLength_of_frame {w : Wire} {frame : Frame}
    (h : w.inbox.map Prod.snd = frame.bytes) :
    4 ≤ w.inbox.length ∧ w.frameLength = (w.inbox.drop 4).length ∧
      (w.inbox.drop 4).map Prod.snd = frame.data := by
  have hlen : w.inbox.length = 4 + frame.data.length := by
    rw [← List.length_map, h, Frame.bytes, List.length_append, BigEndian.length_encode]
  have hhead : (w.inbox.take 4).map Prod.snd = BigEndian.encode 4 frame.body.length := by
    rw [List.map_take, h, Frame.bytes]
    exact List.take_left' (BigEndian.length_encode _ _)
  have hfit : frame.body.length < 256 ^ 4 := frame.length_lt
  refine ⟨by omega, ?_, ?_⟩
  · rw [frameLength, hhead, BigEndian.decode_encode hfit, List.length_drop, hlen,
      Frame.length_data]
    omega
  · rw [List.map_drop, h, Frame.bytes]
    exact List.drop_left' (BigEndian.length_encode _ _)

/-- The stream holds a whole frame, or nothing. -/
def Answered (w : Wire) : Prop := w.inbox = [] ∨ ∃ frame : Frame, w.inbox.map Prod.snd = frame.bytes

theorem map_answerTo {w : Wire} {data : List UInt8} {frame : Frame}
    (h : w.network.answer (w.number + 1) data = some frame) :
    (w.answerTo data).map Prod.snd = frame.bytes := by
  rw [answerTo, h, List.map_map]
  exact List.map_id _

/-- The answer to a request is all there is when nothing was to arrive. -/
theorem answered_deliver {w : Wire} (h : w.inbox = []) (data : List UInt8) :
    (w.deliver data).Answered := by
  have hinbox : (w.deliver data).inbox = w.answerTo data := by
    rw [deliver, h, List.nil_append]
  rw [Answered, hinbox]
  cases hanswer : w.network.answer (w.number + 1) data with
  | none =>
    rw [answerTo, hanswer]
    exact Or.inl rfl
  | some frame => exact Or.inr ⟨frame, map_answerTo hanswer⟩

/-- **Nothing is left behind a frame.** -/
theorem inbox_take_frame {w : Wire} (h : w.Answered) (hlen : 4 ≤ w.inbox.length) :
    ((w.take 4).take w.frameLength).inbox = [] := by
  rcases h with h | ⟨frame, hframe⟩
  · rw [h] at hlen
    cases hlen
  · obtain ⟨-, hn, -⟩ := frameLength_of_frame hframe
    change (w.inbox.drop 4).drop w.frameLength = []
    rw [hn, List.drop_length]

end Wire

end CubridDriver
