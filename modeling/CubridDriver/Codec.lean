import CubridDriver.Types
import CubridDriver.Lib.BigEndian
import CubridDriver.Lib.Checked
import CubridDriver.Lib.Utf8

/-!
# Packets

Reading and writing big-endian packets. What a writer appends is given as a list of
bytes, so a packet is the concatenation of its fields.

A reader walks over a byte slice. Each of its methods first makes sure that enough
bytes are left, and then indexes the slice and moves on; the indexing and the addition
are checked here, as they are by the compiled program. The methods for fields of a fixed
width are one method, `CubridDriver.parseField`, with the width and the way the bytes
are read as parameters.

The platform is a 64-bit one. A slice never spans more than `isize::MAX` bytes; this is
part of the type `CubridDriver.Bytes`.
-/

namespace CubridDriver

/-! ### Machine sizes -/

/-- The greatest `usize`. -/
def usizeMax : ℕ := 2 ^ 64 - 1

theorem isizeMax_le_usizeMax : isizeMax ≤ usizeMax := by decide

/-- A byte slice. -/
abbrev Bytes : Type := { data : List UInt8 // data.length ≤ isizeMax }

/-- The cast of an `i32` to `usize`, which extends the sign. -/
def asUsize (v : Int32) : ℕ := (v.toInt % 2 ^ 64).toNat

/-- `Vec::with_capacity` for elements of the given size, with a `usize` of 64 bits: the capacity
in bytes must not exceed `isize::MAX`. That there may be less memory is left out. -/
def withCapacity {ε : Type} (elemSize capacity : ℕ) : Outcome ε Unit :=
  if capacity * elemSize ≤ isizeMax then .ok () else .panic

theorem asUsize_of_nonneg {v : Int32} (h : 0 ≤ v.toInt) : asUsize v = v.toInt.toNat := by
  have := v.toInt_lt
  rw [asUsize]
  omega

/-- A negative number becomes a huge one. -/
theorem isizeMax_lt_asUsize {v : Int32} (h : v.toInt < 0) : isizeMax < asUsize v := by
  have := v.le_toInt
  rw [asUsize, isizeMax]
  omega

theorem toInt_ofNat {n : ℕ} (h : n < 2 ^ 31) : (Int32.ofNat n).toInt = n :=
  Int32.toInt_ofNat_of_lt h

/-- A number beyond the 32-bit integers is a negative one. -/
theorem toInt_ofNat_neg {n : ℕ} (h : 2 ^ 31 ≤ n) (h' : n < 2 ^ 32) : (Int32.ofNat n).toInt < 0 := by
  rw [Int32.toInt_ofNat', Int32.size, Int.bmod_def]
  omega

theorem asUsize_ofNat {n : ℕ} (h : n < 2 ^ 31) : asUsize (Int32.ofNat n) = n := by
  have hint := toInt_ofNat h
  rw [asUsize_of_nonneg (by omega), hint, Int.toNat_natCast]

/-! ### Writing -/

namespace PacketWriter

/-- Write a single byte. -/
def writeByte (v : UInt8) : List UInt8 := [v]

/-- Write a 16-bit signed integer (big-endian). -/
def writeShort (v : Int16) : List UInt8 := BigEndian.encode 2 v.toUInt16.toNat

@[simp] theorem length_writeShort (v : Int16) : (writeShort v).length = 2 :=
  BigEndian.length_encode _ _

/-- Write a 32-bit signed integer (big-endian). -/
def writeInt (v : Int32) : List UInt8 := BigEndian.encode 4 v.toUInt32.toNat

@[simp] theorem length_writeInt (v : Int32) : (writeInt v).length = 4 :=
  BigEndian.length_encode _ _

/-- Write a 64-bit signed integer (big-endian). -/
def writeLong (v : Int64) : List UInt8 := BigEndian.encode 8 v.toUInt64.toNat

@[simp] theorem length_writeLong (v : Int64) : (writeLong v).length = 8 :=
  BigEndian.length_encode _ _

/-- Write a 32-bit IEEE float (big-endian). -/
def writeFloat (bits : UInt32) : List UInt8 := BigEndian.encode 4 bits.toNat

@[simp] theorem length_writeFloat (bits : UInt32) : (writeFloat bits).length = 4 :=
  BigEndian.length_encode _ _

/-- Write a 64-bit IEEE double (big-endian). -/
def writeDouble (bits : UInt64) : List UInt8 := BigEndian.encode 8 bits.toNat

@[simp] theorem length_writeDouble (bits : UInt64) : (writeDouble bits).length = 8 :=
  BigEndian.length_encode _ _

/-- Write raw bytes. -/
def writeRawBytes (v : List UInt8) : List UInt8 := v

/-- Write zero bytes (filler). -/
def writeFiller (count : ℕ) : List UInt8 := List.replicate count 0

/-- Write a fixed-length string (padded with zeros or truncated). -/
def writeFixedString (s : String) (length : ℕ) : List UInt8 :=
  let bytes := Utf8.encode s
  if bytes.length ≥ length then bytes.take length
  else bytes ++ writeFiller (length - bytes.length)

/-- Write a null-terminated string with a 4-byte length prefix. -/
def writeNullTermString (s : String) : List UInt8 :=
  let bytes := Utf8.encode s
  writeInt (Int32.ofNat (bytes.length + 1)) ++ bytes ++ [0]

/-- Add a byte with length prefix. -/
def addByte (v : UInt8) : List UInt8 := writeInt (Int32.ofNat SIZE_BYTE) ++ writeByte v

/-- Add a short with length prefix. -/
def addShort (v : Int16) : List UInt8 := writeInt (Int32.ofNat SIZE_SHORT) ++ writeShort v

/-- Add an int with length prefix. -/
def addInt (v : Int32) : List UInt8 := writeInt (Int32.ofNat SIZE_INT) ++ writeInt v

/-- Add a long with length prefix. -/
def addLong (v : Int64) : List UInt8 := writeInt (Int32.ofNat SIZE_LONG) ++ writeLong v

/-- Add a float with length prefix. -/
def addFloat (bits : UInt32) : List UInt8 := writeInt (Int32.ofNat SIZE_FLOAT) ++ writeFloat bits

/-- Add a double with length prefix. -/
def addDouble (bits : UInt64) : List UInt8 :=
  writeInt (Int32.ofNat SIZE_DOUBLE) ++ writeDouble bits

/-- Add raw bytes with length prefix. -/
def addBytes (v : List UInt8) : List UInt8 := writeInt (Int32.ofNat v.length) ++ v

/-- Add cache time fields. -/
def addCacheTime : List UInt8 := writeInt (Int32.ofNat SIZE_LONG) ++ writeInt 0 ++ writeInt 0

/-- Build a framed protocol header. -/
def buildHeader (dataLength : ℕ) (casInfo : CasInfo) : List UInt8 :=
  BigEndian.encode 4 (dataLength % 2 ^ 32) ++ casInfo.toList

/-- Build a complete framed request: header and payload. -/
def buildRequest (payload : List UInt8) (casInfo : CasInfo) : List UInt8 :=
  buildHeader payload.length casInfo ++ payload

end PacketWriter

/-! ### Reading -/

/-- Parse a framed protocol header from 8 bytes: the length and the token. -/
def parseProtocolHeader (data : { bs : List UInt8 // bs.length = 8 }) : ℕ × CasInfo :=
  (BigEndian.decode (data.1.take 4),
    (data.1.getD 4 0, data.1.getD 5 0, data.1.getD 6 0, data.1.getD 7 0))

/-- A reader over a byte slice. -/
structure PacketReader where
  /-- The slice. -/
  data : Bytes
  /-- The read position. -/
  pos : ℕ

/-- A method of the reader. -/
abbrev Parser (α : Type) : Type := Checked PacketReader ProtocolError α

namespace PacketReader

/-- A reader at the start of a slice. -/
def new (data : Bytes) : PacketReader := ⟨data, 0⟩

/-- The number of remaining unread bytes. -/
def remaining (r : PacketReader) : ℕ := r.data.1.length - r.pos

/-- What is left to be read. -/
def rest (r : PacketReader) : List UInt8 := r.data.1.drop r.pos

/-- The reader, `count` bytes further. -/
def advance (r : PacketReader) (count : ℕ) : PacketReader := { r with pos := r.pos + count }

/-- The position is in the slice, or at its end. -/
def Valid (r : PacketReader) : Prop := r.pos ≤ r.data.1.length

@[simp] theorem length_rest (r : PacketReader) : r.rest.length = r.remaining := by
  rw [rest, List.length_drop, remaining]

theorem rest_new (data : Bytes) : (new data).rest = data.1 := List.drop_zero

theorem valid_new (data : Bytes) : (new data).Valid := Nat.zero_le _

theorem valid_advance {r : PacketReader} {count : ℕ} (hr : r.Valid) (h : count ≤ r.remaining) :
    (r.advance count).Valid := by
  simp only [Valid, remaining, advance] at hr h ⊢
  omega

theorem rest_advance (r : PacketReader) (count : ℕ) :
    (r.advance count).rest = r.rest.drop count := by
  rw [rest, rest, List.drop_drop]
  rfl

end PacketReader

section Primitives

variable {α : Type}

/-- The number of remaining unread bytes. -/
def getRemaining : Parser ℕ := fun r => .ok (r.remaining, r)

/-- Check if there are enough bytes remaining. -/
def ensure (count : ℕ) : Parser Unit := fun r =>
  if r.remaining < count then .err (.unexpectedEof count r.remaining) else .ok ((), r)

/-- The `count` bytes from the position on; the slice is indexed with bounds checked. -/
def index (count : ℕ) : Parser (List UInt8) := fun r =>
  if r.pos + count ≤ r.data.1.length then .ok ((r.data.1.drop r.pos).take count, r) else .panic

/-- Move on by `count` bytes; the addition must not overflow. -/
def bump (count : ℕ) : Parser Unit := fun r =>
  if r.pos + count ≤ usizeMax then .ok ((), { r with pos := r.pos + count }) else .panic

/-- Read a field of `count` bytes. -/
def parseField (count : ℕ) (decode : List UInt8 → α) : Parser α := do
  ensure count
  let bs ← index count
  bump count
  return decode bs

end Primitives

/-- Read a single byte. -/
def parseByte : Parser UInt8 := parseField 1 fun bs => UInt8.ofNat (BigEndian.decode bs)

/-- Read a 16-bit signed integer (big-endian). -/
def parseShort : Parser Int16 :=
  parseField 2 fun bs => (UInt16.ofNat (BigEndian.decode bs)).toInt16

/-- The 32-bit signed integer four bytes stand for. -/
def intOfBytes (bs : List UInt8) : Int32 := (UInt32.ofNat (BigEndian.decode bs)).toInt32

/-- Read a 32-bit signed integer (big-endian). -/
def parseInt : Parser Int32 := parseField 4 intOfBytes

/-- Read a 64-bit signed integer (big-endian). -/
def parseLong : Parser Int64 :=
  parseField 8 fun bs => (UInt64.ofNat (BigEndian.decode bs)).toInt64

/-- Read a 32-bit IEEE float (big-endian). -/
def parseFloat : Parser UInt32 := parseField 4 fun bs => UInt32.ofNat (BigEndian.decode bs)

/-- Read a 64-bit IEEE double (big-endian). -/
def parseDouble : Parser UInt64 := parseField 8 fun bs => UInt64.ofNat (BigEndian.decode bs)

/-- Read `count` raw bytes. -/
def parseRawBytes (count : ℕ) : Parser (List UInt8) := parseField count id

/-- Skip `count` bytes. -/
def skip (count : ℕ) : Parser Unit := do
  ensure count
  bump count

/-- Read CAS_INFO (4 bytes). -/
def parseCasInfo : Parser CasInfo :=
  parseField SIZE_CAS_INFO fun bs =>
    (bs.getD 0 0, bs.getD 1 0, bs.getD 2 0, bs.getD 3 0)

/-- Strip trailing null bytes. -/
def stripNulls (raw : List UInt8) : List UInt8 := (raw.reverse.dropWhile (· = 0)).reverse

/-- The string a null-terminated byte string holds. -/
def stringOfBytes (raw : List UInt8) : Outcome ProtocolError String :=
  match Utf8.decode (stripNulls raw) with
  | .ok s => .ok s
  | .error e => .err (.invalidPacket ("invalid UTF-8: " ++ e.message))

/-- Read a null-terminated string of the given length (including the null terminator). -/
def parseNullTermString (length : ℕ) : Parser String :=
  if length = 0 then pure "" else do
    let raw ← parseField length id
    Checked.lift (stringOfBytes raw)

/-- Read an error response: the code, then the message. -/
def readError (responseLength : ℕ) : Parser (Int32 × String) := do
  let code ← parseInt
  let msgLen := responseLength - SIZE_INT
  let message ← (if msgLen > 0 then parseNullTermString msgLen else pure "" : Parser String)
  return (code, message)

/-- Parse a DATE value: year, month, day. -/
def parseDate : Parser (Int16 × Int16 × Int16) := do
  let year ← parseShort
  let month ← parseShort
  let day ← parseShort
  return (year, month, day)

/-- Parse a TIME value: hour, minute, second. -/
def parseTime : Parser (Int16 × Int16 × Int16) := do
  let hour ← parseShort
  let minute ← parseShort
  let second ← parseShort
  return (hour, minute, second)

/-- Parse a TIMESTAMP value: year, month, day, hour, minute, second. -/
def parseTimestamp : Parser (Int16 × Int16 × Int16 × Int16 × Int16 × Int16) := do
  let year ← parseShort
  let month ← parseShort
  let day ← parseShort
  let hour ← parseShort
  let minute ← parseShort
  let second ← parseShort
  return (year, month, day, hour, minute, second)

/-- Parse a DATETIME value: year, month, day, hour, minute, second, ms. -/
def parseDatetime : Parser (Int16 × Int16 × Int16 × Int16 × Int16 × Int16 × Int16) := do
  let year ← parseShort
  let month ← parseShort
  let day ← parseShort
  let hour ← parseShort
  let minute ← parseShort
  let second ← parseShort
  let ms ← parseShort
  return (year, month, day, hour, minute, second, ms)

end CubridDriver
