import CubridDriver.Conversation

/-!
# Frames in a byte stream

Requests are framed by one crate and frames are read by another one. The writer puts the
length of the payload in front of the CAS info token; the reader takes the length and then
that many bytes and the four of the token. So the length does not count the token, on
either side.

If it did on one of them, a single frame could still be read, and the next one would not.
`CubridDriver.recvFrames_spec` says that a stream is split where it was put together, however
many frames it has, and that a stream which ends within a frame ends in an error.
-/

namespace CubridDriver

open Prog Connection PacketWriter

/-! ### The stream -/

/-- A stream that ends after these bytes. -/
structure ByteStream where
  /-- What is left to be read. -/
  bytes : List UInt8
  deriving DecidableEq

namespace ByteStream

/-- Read from the stream. The bytes of a read that reaches the end are lost. -/
def readExact (count : ℕ) (s : ByteStream) :
    Except IoError { bs : List UInt8 // bs.length = count } × ByteStream :=
  if h : count ≤ s.bytes.length then
    (.ok ⟨s.bytes.take count, List.length_take_of_le h⟩, ⟨s.bytes.drop count⟩)
  else (.error .unexpectedEof, ⟨[]⟩)

/-- What is written goes elsewhere. -/
instance : Socket ByteStream where
  writeAll _ s := (.ok (), s)
  readExact := readExact

theorem readExact_append {count : ℕ} {bs : List UInt8} (tail : List UInt8)
    (h : bs.length = count) :
    readExact count ⟨bs ++ tail⟩ = (.ok ⟨bs, h⟩, ⟨tail⟩) := by
  have hle : count ≤ (bs ++ tail).length := by
    rw [List.length_append]
    omega
  rw [readExact, dif_pos hle]
  simp only [List.take_left' h, List.drop_left' h]

theorem readExact_short {count : ℕ} {bs : List UInt8} (h : bs.length < count) :
    readExact count ⟨bs⟩ = (.error .unexpectedEof, ⟨[]⟩) := dif_neg (by simpa using h)

end ByteStream

/-! ### One frame -/

section Frame

variable {conn : Connection ByteStream}

theorem readExactBytes_append {count : ℕ} {bs tail : List UInt8} (h : bs.length = count)
    (hbytes : conn.stream = ⟨bs ++ tail⟩) :
    readExactBytes count conn = some (.ok ⟨bs, h⟩, { conn with stream := ⟨tail⟩ }) := by
  have hread : Socket.readExact count conn.stream = _ :=
    hbytes ▸ ByteStream.readExact_append tail h
  rw [readExactBytes, hread]
  rfl

theorem readExactBytes_short {count : ℕ} (h : conn.stream.bytes.length < count) :
    readExactBytes count conn =
      some (.err (.io .unexpectedEof), { conn with stream := ⟨[]⟩ }) := by
  have hread : Socket.readExact count conn.stream = _ := ByteStream.readExact_short h
  rw [readExactBytes, hread]
  rfl

/-- **A frame is received**, and what follows is left. -/
theorem recvFramed_frame (frame : Frame) {tail : List UInt8}
    (hbytes : conn.stream = ⟨frame.bytes ++ tail⟩) :
    recvFramed conn = some (.ok frame.response, { conn with stream := ⟨tail⟩ }) := by
  have hlength : (BigEndian.encode 4 frame.body.length).length = 4 := BigEndian.length_encode _ _
  have hdecode : BigEndian.decode (BigEndian.encode 4 frame.body.length) = frame.body.length :=
    BigEndian.decode_encode frame.length_lt
  have hdata : frame.data.length =
      BigEndian.decode (BigEndian.encode 4 frame.body.length) + SIZE_CAS_INFO := by
    rw [hdecode, Frame.length_data]
  rw [Frame.bytes, List.append_assoc] at hbytes
  rw [recvFramed, bind_ok (readExactBytes_append hlength hbytes),
    bind_ok (readExactBytes_append hdata rfl)]
  rfl

/-- **A frame that is cut off is not received**, wherever the cut is. -/
theorem recvFramed_cut (frame : Frame) {cut : List UInt8} (hcut : cut <+: frame.bytes)
    (hshort : cut.length < frame.bytes.length) (hbytes : conn.stream = ⟨cut⟩) :
    recvFramed conn = some (.err (.io .unexpectedEof), { conn with stream := ⟨[]⟩ }) := by
  have hlength : (BigEndian.encode 4 frame.body.length).length = 4 := BigEndian.length_encode _ _
  by_cases hfour : cut.length < 4
  · exact bind_err (readExactBytes_short (by rw [hbytes]; exact hfour))
  -- the length is there, so it is the one of the frame, and the data is too short for it
  · obtain ⟨data, hdata, rfl⟩ : ∃ data, data.length < frame.data.length ∧
        cut = BigEndian.encode 4 frame.body.length ++ data := by
      rw [Frame.bytes] at hcut hshort
      obtain ⟨data, rfl⟩ := List.prefix_of_prefix_length_le (List.prefix_append _ frame.data) hcut
        (by omega)
      rw [List.length_append, List.length_append] at hshort
      exact ⟨data, by omega, rfl⟩
    rw [recvFramed, bind_ok (readExactBytes_append hlength hbytes)]
    refine bind_err (readExactBytes_short ?_)
    change data.length < BigEndian.decode (BigEndian.encode 4 frame.body.length) + SIZE_CAS_INFO
    rw [BigEndian.decode_encode frame.length_lt, ← Frame.length_data]
    exact hdata

end Frame

/-! ### Many frames -/

/-- Receive a number of frames. -/
def recvFrames {τ : Type} [Socket τ] : ℕ → Prog (Connection τ) Error (List Bytes)
  | 0 => pure []
  | n + 1 => do
      let frame ← recvFramed
      let frames ← recvFrames n
      return frame :: frames

/-- A frame as it is built of its payload and its token. -/
def Frame.build (frame : Frame) : List UInt8 := buildRequest frame.body frame.casInfo

/-- **The frame that is built is the one that is read.** -/
theorem Frame.build_eq (frame : Frame) : frame.build = frame.bytes := by
  rw [build, buildRequest, buildHeader, Nat.mod_eq_of_lt frame.length_lt, List.append_assoc]
  rfl

theorem Frame.length_header (frame : Frame) : (frame.build.take 8).length = 8 := by
  rw [build, buildRequest, List.take_left' (length_buildHeader _ _), length_buildHeader]

/-- The first eight bytes of a frame. -/
def Frame.header (frame : Frame) : { bs : List UInt8 // bs.length = 8 } :=
  ⟨frame.build.take 8, frame.length_header⟩

/-- **The header says** how long the payload is, and has the token. -/
theorem parseProtocolHeader_header (frame : Frame) :
    parseProtocolHeader frame.header = (frame.body.length, frame.casInfo) := by
  have hlength : (BigEndian.encode 4 frame.body.length).length = 4 := BigEndian.length_encode _ _
  have hheader : frame.header.1 =
      BigEndian.encode 4 frame.body.length ++ frame.casInfo.toList := by
    change frame.build.take 8 = _
    rw [Frame.build, buildRequest, List.take_left' (length_buildHeader _ _), buildHeader,
      Nat.mod_eq_of_lt frame.length_lt]
  obtain ⟨a, b, c, d, hbytes⟩ : ∃ a b c d, BigEndian.encode 4 frame.body.length = [a, b, c, d] :=
    ⟨_, _, _, _, rfl⟩
  rw [parseProtocolHeader, hheader, List.take_left' hlength,
    BigEndian.decode_encode frame.length_lt, hbytes]
  rfl

/-- A stream of frames, one after the other. -/
def streamOf (frames : List Frame) : List UInt8 := (frames.map Frame.build).flatten

theorem streamOf_cons (frame : Frame) (frames : List Frame) :
    streamOf (frame :: frames) = frame.build ++ streamOf frames := rfl

theorem streamOf_append (before after : List Frame) :
    streamOf (before ++ after) = streamOf before ++ streamOf after := by
  rw [streamOf, List.map_append, List.flatten_append]
  rfl

/-- A connection on a stream. -/
def onStream (bytes : List UInt8) (casInfo : CasInfo) : Connection ByteStream := ⟨⟨bytes⟩, casInfo⟩

/-- **Frames are received in order**, and what follows them is left. -/
theorem recvFrames_streamOf (frames : List Frame) (tail : List UInt8) (casInfo : CasInfo) :
    recvFrames frames.length (onStream (streamOf frames ++ tail) casInfo) =
      some (.ok (frames.map Frame.response), onStream tail casInfo) := by
  induction frames with
  | nil => rfl
  | cons frame frames ih =>
    have hframe : recvFramed (onStream (streamOf (frame :: frames) ++ tail) casInfo) =
        some (.ok frame.response, onStream (streamOf frames ++ tail) casInfo) := by
      refine recvFramed_frame frame ?_
      rw [onStream, streamOf_cons, List.append_assoc, frame.build_eq]
    rw [List.length_cons, recvFrames, bind_ok hframe, bind_ok ih]
    rfl

/-- **A stream is split where it was put together.** Received one after the other, the
frames have their tokens and payloads, and then the stream is exhausted; the header of each
says how long it is. Where the stream is cut within a frame, the frames before it are
received and then there is an error. -/
theorem recvFrames_spec (frames : List Frame) (casInfo : CasInfo) :
    recvFrames frames.length (onStream (streamOf frames) casInfo) =
        some (.ok (frames.map Frame.response), onStream [] casInfo) ∧
      recvFramed (onStream [] casInfo) =
        some (.err (.io .unexpectedEof), onStream [] casInfo) ∧
      (∀ frame ∈ frames, parseProtocolHeader frame.header =
        (frame.body.length, frame.casInfo)) ∧
      ∀ before frame after j, frames = before ++ frame :: after → 0 < j →
        j < frame.build.length → ∃ conn,
          recvFrames before.length
              (onStream ((streamOf frames).take ((streamOf before).length + j)) casInfo) =
            some (.ok (before.map Frame.response), conn) ∧
          recvFramed conn = some (.err (.io .unexpectedEof), onStream [] casInfo) := by
  refine ⟨?_, ?_, fun frame _ => parseProtocolHeader_header frame, ?_⟩
  · have h := recvFrames_streamOf frames [] casInfo
    rwa [List.append_nil] at h
  · exact bind_err (readExactBytes_short (Nat.succ_pos 3))
  · rintro before frame after j rfl hpos hlt
    have hstream : (streamOf (before ++ frame :: after)).take ((streamOf before).length + j) =
        streamOf before ++ frame.build.take j := by
      rw [streamOf_append, streamOf_cons, List.take_length_add_append,
        List.take_append_of_le_length (Nat.le_of_lt hlt)]
    have hcut : frame.build.take j <+: frame.bytes := frame.build_eq ▸ List.take_prefix j _
    have hshort : (frame.build.take j).length < frame.bytes.length := by
      rw [← frame.build_eq, List.length_take]
      omega
    rw [hstream]
    exact ⟨_, recvFrames_streamOf before _ casInfo, recvFramed_cut frame hcut hshort rfl⟩

/-- A frame with one byte of payload. -/
def oneByteFrame : Frame := ⟨(1, 2, 3, 4), [31], by decide⟩

/-- A frame without payload. -/
def emptyFrame : Frame := ⟨(5, 6, 7, 8), [], by decide⟩

/-- The second frame is cut off in its token. -/
theorem recvFrames_spec_two : ∃ conn,
    recvFrames 1 (onStream ((streamOf [oneByteFrame, emptyFrame]).take 15) (0, 0, 0, 0)) =
      some (.ok [oneByteFrame.response], conn) ∧
    recvFramed conn = some (.err (.io .unexpectedEof), onStream [] (0, 0, 0, 0)) :=
  (recvFrames_spec [oneByteFrame, emptyFrame] (0, 0, 0, 0)).2.2.2 [oneByteFrame] emptyFrame [] 6
    rfl (by decide) (by decide)

end CubridDriver
