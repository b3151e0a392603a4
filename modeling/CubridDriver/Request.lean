import CubridDriver.Codec

/-!
# Requests

The builders of the requests. A payload is the function code and its arguments; a
request is the payload behind its header, which carries the CAS info token of the last
response.

The arguments of most function codes are written with a length prefix (`add…`), some
without one (`write…`); a reader of the source should find every field here in its
place. The one arithmetic operation is the start position of a fetch, which is the
count of rows plus one. Like every arithmetic operation of the source it is checked.
-/

namespace CubridDriver

open PacketWriter

/-! ### Checked arithmetic -/

/-- Addition of 32-bit signed integers, which panics when it overflows. -/
def checkedAdd {ε : Type} (a b : Int32) : Outcome ε Int32 :=
  if -2 ^ 31 ≤ a.toInt + b.toInt ∧ a.toInt + b.toInt < 2 ^ 31 then .ok (a + b) else .panic

/-- A sum that is in range. -/
theorem checkedAdd_eq_ok {ε : Type} {a b : Int32} (hlo : -2 ^ 31 ≤ a.toInt + b.toInt)
    (hhi : a.toInt + b.toInt < 2 ^ 31) :
    (checkedAdd a b : Outcome ε Int32) = .ok (a + b) ∧ (a + b).toInt = a.toInt + b.toInt := by
  refine ⟨if_pos ⟨hlo, hhi⟩, ?_⟩
  rw [Int32.toInt_add, Int.bmod_eq_of_le (by omega) (by omega)]

/-- A flag, as it is sent. -/
def flagByte (flag : Bool) : UInt8 := if flag then 1 else 0

/-! ### Bind parameters -/

/-- The seven shorts of a datetime. -/
def writeDatetime (year month day hour minute second ms : Int16) : List UInt8 :=
  writeShort year ++ writeShort month ++ writeShort day ++ writeShort hour ++
    writeShort minute ++ writeShort second ++ writeShort ms

/-- A parameter that is not `NULL`: the size of what follows, the type, and the value. -/
def typedParam (size : ℕ) (dataType : DataType) (bytes : List UInt8) : List UInt8 :=
  writeInt (Int32.ofNat (1 + size)) ++ writeByte dataType.toU8 ++ bytes

/-- Encode one parameter. A date is sent as the datetime at midnight, a Boolean as a
short. -/
def encodeOneParam : Value → List UInt8
  | .null => writeInt 0
  | .bool v => typedParam SIZE_SHORT .short (writeShort (if v then 1 else 0))
  | .short v => typedParam SIZE_SHORT .short (writeShort v)
  | .int v => typedParam SIZE_INT .int (writeInt v)
  | .long v => typedParam SIZE_LONG .bigint (writeLong v)
  | .float bits => typedParam SIZE_FLOAT .float (writeFloat bits)
  | .double bits => typedParam SIZE_DOUBLE .double (writeDouble bits)
  | .string v =>
      let bytes := Utf8.encode v
      typedParam (bytes.length + 1) .string (bytes ++ [0])
  | .bytes v => typedParam v.length .varBit v
  | .date year month day =>
      typedParam SIZE_DATETIME .datetime (writeDatetime year month day 0 0 0 0)
  | .datetime year month day hour minute second ms =>
      typedParam SIZE_DATETIME .datetime (writeDatetime year month day hour minute second ms)
  | .time hour minute second =>
      typedParam SIZE_DATETIME .time (writeDatetime 0 0 0 hour minute second 0)
  | .timestamp year month day hour minute second =>
      typedParam SIZE_DATETIME .timestamp (writeDatetime year month day hour minute second 0)

/-- What a parameter stands for on the wire. -/
def Value.onWire : Value → Value
  | .bool v => .short (if v then 1 else 0)
  | .date year month day => .datetime year month day 0 0 0 0
  | v => v

/-- Encode bind parameters into wire format. -/
def encodeBindParams (params : List Value) : List UInt8 := (params.map encodeOneParam).flatten

/-! ### The builders -/

/-- The function code of a request and its arguments, framed. -/
def framed (code : FunctionCode) (arguments : List UInt8) (casInfo : CasInfo) : List UInt8 :=
  buildRequest (writeByte code.toU8 ++ arguments) casInfo

/-- Build a PrepareAndExecute request. -/
def writePrepareAndExecute (sql : String) (autoCommit : Bool) (casInfo : CasInfo) : List UInt8 :=
  framed .prepareAndExecute (addInt 3 ++ -- arg count
    writeNullTermString sql ++
    addByte PREPARE_NORMAL ++
    addByte (flagByte autoCommit) ++
    addByte EXECUTE_QUERY_ALL ++
    addInt 0 ++ -- max_col_size
    addInt 0 ++ -- max_row_size
    writeInt 0 ++ -- no bind parameters, and no length prefix
    writeInt (Int32.ofNat SIZE_LONG) ++ -- cache time length
    writeInt 0 ++
    writeInt 0 ++
    addInt 0) casInfo -- query timeout

/-- Build a Prepare request. -/
def writePrepare (sql : String) (autoCommit : Bool) (casInfo : CasInfo) : List UInt8 :=
  framed .prepare (writeNullTermString sql ++
    addByte PREPARE_NORMAL ++
    addByte (flagByte autoCommit)) casInfo

/-- Build an Execute request. -/
def writeExecute (queryHandle : Int32) (stmtType : StatementType) (args : List Value)
    (autoCommit : Bool) (casInfo : CasInfo) : List UInt8 :=
  let bindData := encodeBindParams args
  framed .execute (addInt queryHandle ++
    addByte EXECUTE_NORMAL ++
    addInt 0 ++ -- max_col_size
    addInt 0 ++ -- max_row_size
    (if bindData = [] then writeInt 0 else addBytes bindData) ++
    writeInt 1 ++ -- bind_mode_count
    writeByte (flagByte stmtType.isSelect) ++ -- fetch flag
    addByte (flagByte autoCommit) ++
    addByte 1 ++ -- forward_only
    addCacheTime ++
    addInt 0) casInfo -- query timeout

/-- Build a Fetch request. The start position counts from one. -/
def writeFetch {ε : Type} (queryHandle currentTupleCount fetchSize : Int32) (casInfo : CasInfo) :
    Outcome ε (List UInt8) := do
  let start ← checkedAdd currentTupleCount 1
  return framed .fetch (addInt queryHandle ++
    addInt start ++
    addInt fetchSize ++
    addByte 0 ++ -- case_sensitive
    addInt 0) casInfo -- resultset_index

/-- Build a CloseReqHandle request. -/
def writeCloseReqHandle (queryHandle : Int32) (casInfo : CasInfo) : List UInt8 :=
  framed .closeReqHandle (addInt queryHandle) casInfo

/-- Build an EndTran request, for commit or rollback. -/
def writeEndTran (tranType : TransactionType) (casInfo : CasInfo) : List UInt8 :=
  framed .endTran (addByte tranType.toU8) casInfo

/-- Build a GetDbVersion request. -/
def writeGetDbVersion (autoCommit : Bool) (casInfo : CasInfo) : List UInt8 :=
  framed .getDbVersion (addByte (flagByte autoCommit)) casInfo

/-- Build a GetLastInsertId request. -/
def writeGetLastInsertId (casInfo : CasInfo) : List UInt8 := framed .getLastInsertId [] casInfo

/-- Build a ConClose request. -/
def writeConClose (casInfo : CasInfo) : List UInt8 := framed .conClose [] casInfo

/-- Build an OpenDatabase request. It has no header. -/
def writeOpenDatabase (database user password : String) : List UInt8 :=
  writeFixedString database DB_NAME_SIZE ++
    writeFixedString user DB_USER_SIZE ++
    writeFixedString password DB_PASSWORD_SIZE ++
    writeFiller DB_EXTENDED_SIZE ++
    writeFiller DB_RESERVED_SIZE

/-! ### Function codes -/

/-- The byte of a request that holds its function code, behind the header. -/
def functionByte (request : List UInt8) : Option UInt8 := request[8]?

@[simp] theorem length_buildHeader (dataLength : ℕ) (casInfo : CasInfo) :
    (buildHeader dataLength casInfo).length = 8 := by
  rw [buildHeader, List.length_append, BigEndian.length_encode]
  rfl

/-- A request is a header of eight bytes, the function code, and the arguments. -/
theorem framed_eq (code : FunctionCode) (arguments : List UInt8) (casInfo : CasInfo) :
    ∃ header, header.length = 8 ∧
      framed code arguments casInfo = header ++ (code.toU8 :: arguments) :=
  ⟨buildHeader _ casInfo, length_buildHeader _ _, rfl⟩

/-- **The function code stands behind the header.** -/
@[simp] theorem functionByte_framed (code : FunctionCode) (arguments : List UInt8)
    (casInfo : CasInfo) : functionByte (framed code arguments casInfo) = some code.toU8 := by
  obtain ⟨header, hlen, hframed⟩ := framed_eq code arguments casInfo
  rw [functionByte, hframed, List.getElem?_append_right (Nat.le_of_eq hlen), hlen]
  rfl

/-- The function codes are told apart by their bytes. -/
theorem FunctionCode.toU8_inj {c d : FunctionCode} : c.toU8 = d.toU8 ↔ c = d := by
  refine ⟨fun h => ?_, congrArg _⟩
  cases c <;> cases d <;> first | rfl | exact absurd h (by decide)

end CubridDriver
