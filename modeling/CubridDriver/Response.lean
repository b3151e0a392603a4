import CubridDriver.Codec

/-!
# Response parsers

The parsers of the responses, by function code. Each takes a response payload, which
starts with the CAS info token, and returns a record and the token, or an error.

The counts and lengths in a response are signed 32-bit integers. A length is cast to
`usize` and checked against what is left of the packet. A count is cast to `usize` too,
and sets the capacity of a vector before anything else is read.
-/

namespace CubridDriver

open Checked

/-! ### Errors -/

/-- Return the error that the rest of a response describes. -/
def failWithServerError {α : Type} : Parser α := do
  let responseLength ← getRemaining
  let (code, message) ← readError responseLength
  throw (.serverError code message)

/-- What every parser starts with: the CAS info token and the response code, a negative
one announcing an error. -/
def parseResponseCode : Parser (CasInfo × Int32) := do
  let casInfo ← parseCasInfo
  let responseCode ← parseInt
  if responseCode < 0 then failWithServerError else return (casInfo, responseCode)

/-! ### Columns and result infos -/

/-- The length of a string, and the string. -/
def parseLengthString : Parser String := do
  let len ← parseInt
  parseNullTermString (asUsize len)

/-- Read the type byte of a column; a byte with the flag `0x80` announces it. -/
def parseColumnType : Parser UInt8 := do
  let legacyType ← parseByte
  if legacyType &&& 0x80 ≠ 0 then parseByte else return legacyType

/-- Read one column description. -/
def parseColumn : Parser ColumnMetaData := do
  let colType ← parseColumnType
  match DataType.fromU8 colType with
  | none => throw (.unsupportedType colType)
  | some columnType => do
      let scale ← parseShort
      let precision ← parseInt
      let name ← parseLengthString
      let realName ← parseLengthString
      let tableName ← parseLengthString
      let isNullable ← parseByte
      let defaultValue ← parseLengthString
      let isAutoIncrement ← parseByte
      let isUniqueKey ← parseByte
      let isPrimaryKey ← parseByte
      let _ ← parseByte -- is_reverse_index
      let _ ← parseByte -- is_reverse_unique
      let isForeignKey ← parseByte
      let _ ← parseByte -- is_shared
      return {
        columnType, scale, precision, name, realName, tableName
        isNullable := isNullable = 1
        defaultValue
        isAutoIncrement := isAutoIncrement = 1
        isUniqueKey := isUniqueKey = 1
        isPrimaryKey := isPrimaryKey = 1
        isForeignKey := isForeignKey = 1 }

/-- A vector of columns, which must not outgrow an allocation. -/
def columnVec (cols : List ColumnMetaData) : Outcome ProtocolError Columns :=
  if h : cols.length * columnSize ≤ isizeMax then .ok ⟨cols, h⟩ else .panic

/-- Parse column metadata entries. The loop runs over `0..count`, the capacity is
`count as usize`. -/
def parseColumnMetadata (count : Int32) : Parser Columns := do
  lift (withCapacity columnSize (asUsize count))
  let cols ← repeatM parseColumn count.toInt.toNat
  lift (columnVec cols)

/-- Read one result info. -/
def parseResultInfo : Parser ResultInfo := do
  let stmtTypeByte ← parseByte
  let resultCount ← parseInt
  let oid ← parseRawBytes SIZE_OID
  let _ ← parseInt -- cache_time_sec
  let _ ← parseInt -- cache_time_usec
  return { stmtType := StatementType.fromU8 stmtTypeByte, resultCount, oid }

/-- The size of a `ResultInfo` in memory. -/
def resultInfoSize : ℕ := 32

/-- Parse result-info entries. -/
def parseResultInfos (count : Int32) : Parser (List ResultInfo) := do
  lift (withCapacity resultInfoSize (asUsize count))
  repeatM parseResultInfo count.toInt.toNat

/-! ### Rows -/

/-- Read a single typed column value; `size` is the byte count to read. -/
def readValue (colType : DataType) (size : ℕ) : Parser Value :=
  match colType with
  | .char | .string | .nchar | .varNChar | .enum | .numeric => do
      return .string (← parseNullTermString size)
  | .short => do return .short (← parseShort)
  | .int => do return .int (← parseInt)
  | .bigint => do return .long (← parseLong)
  | .float => do return .float (← parseFloat)
  | .double | .monetary => do return .double (← parseDouble)
  | .date => do
      let (year, month, day) ← parseDate
      return .date year month day
  | .time => do
      let (hour, minute, second) ← parseTime
      return .time hour minute second
  | .datetime => do
      let (year, month, day, hour, minute, second, ms) ← parseDatetime
      return .datetime year month day hour minute second ms
  | .timestamp => do
      let (year, month, day, hour, minute, second) ← parseTimestamp
      return .timestamp year month day hour minute second
  | .bit | .varBit | .blob | .clob | .set | .multiset | .sequence | .object => do
      return .bytes (← parseRawBytes size)
  | .null => return .null

/-- Read the value of one column. A size of zero or below is `NULL`; in the result of a
call, and in a column of type `NULL`, the first byte of the value is its type. -/
def readCell (isCallType : Bool) (col : ColumnMetaData) : Parser Value := do
  let size ← parseInt
  if size ≤ 0 then return .null
  else if isCallType ∨ col.columnType = .null then do
    let typeByte ← parseByte
    let actualSize ← lift (Outcome.checkedSub (asUsize size) 1)
    if actualSize = 0 then return .null
    else match DataType.fromU8 typeByte with
      | some colType => readValue colType actualSize
      | none => return .bytes (← parseRawBytes actualSize)
  else readValue col.columnType (asUsize size)

/-- The size of a row, and of a `Value`, in memory. -/
def rowSize : ℕ := 24

/-- The size of a `Value` in memory. -/
def valueSize : ℕ := 32

/-- Read one row. -/
def parseRow (isCallType : Bool) (columns : Columns) : Parser Row := do
  let _ ← parseInt -- row index
  skip SIZE_OID
  lift (withCapacity valueSize columns.1.length)
  forEach (readCell isCallType) columns.1

/-- Parse row data. -/
def parseRowData (tupleCount : Int32) (columns : Columns) (stmtType : StatementType) :
    Parser (List Row) := do
  lift (withCapacity rowSize (asUsize tupleCount))
  repeatM (parseRow stmtType.isCall columns) tupleCount.toInt.toNat

/-- Skip one field under a condition. -/
def skipIf {α : Type} (c : Bool) (field : Parser α) : Parser Unit :=
  if c then do
    let _ ← field
    return ()
  else return ()

/-- What follows the result infos for newer protocol versions. -/
def skipVersionFields (protoVersion : Int32) : Parser Unit := do
  skipIf (protoVersion > 1) parseByte -- includes_column_info
  skipIf (protoVersion > 4) parseInt -- shard_id

/-- The rows that come with the response of a query. -/
def parseInlineRows (columns : Columns) (stmtType : StatementType) (skipEmpty : Bool) :
    Parser (Int32 × List Row) := do
  let left ← getRemaining
  if stmtType.isSelect ∧ left ≥ SIZE_INT * 2 then do
    let _ ← parseInt -- fetch_code
    let tupleCount ← parseInt
    if tupleCount > 0 ∧ ¬(skipEmpty ∧ columns.1 = []) then
      return (tupleCount, ← parseRowData tupleCount columns stmtType)
    else return (tupleCount, [])
  else return (0, [])

/-! ### The parsers -/

/-- Parse a `PrepareAndExecute` response. -/
def parsePrepareAndExecute (data : Bytes) (protoVersion : Int32) :
    Outcome ProtocolError (PrepareAndExecuteResult × CasInfo) :=
  Prod.fst <$> go (PacketReader.new data)
where
  /-- The fields in order. -/
  go : Parser (PrepareAndExecuteResult × CasInfo) := do
    let (casInfo, queryHandle) ← parseResponseCode
    let _ ← parseInt -- result cache lifetime
    let stmtTypeByte ← parseByte
    let statementType := StatementType.fromU8 stmtTypeByte
    let bindCount ← parseInt
    let _ ← parseByte -- is_updatable
    let colCount ← parseInt
    let columns ← parseColumnMetadata colCount
    let totalTupleCount ← parseInt
    let _ ← parseByte -- cache_reusable
    let resultCount ← parseInt
    let resultInfos ← parseResultInfos resultCount
    skipVersionFields protoVersion
    let (tupleCount, rows) ← parseInlineRows columns statementType false
    return ({
      queryHandle, statementType, bindCount, columns, totalTupleCount, resultInfos
      tupleCount, rows }, casInfo)

/-- Parse a `Prepare` response. -/
def parsePrepare (data : Bytes) : Outcome ProtocolError (PrepareResult × CasInfo) :=
  Prod.fst <$> go (PacketReader.new data)
where
  /-- The fields in order. -/
  go : Parser (PrepareResult × CasInfo) := do
    let (casInfo, queryHandle) ← parseResponseCode
    let _ ← parseInt -- result cache lifetime
    let stmtTypeByte ← parseByte
    let statementType := StatementType.fromU8 stmtTypeByte
    let bindCount ← parseInt
    let _ ← parseByte -- is_updatable
    let colCount ← parseInt
    let columns ← parseColumnMetadata colCount
    return ({ queryHandle, statementType, bindCount, columns }, casInfo)

/-- Parse an `Execute` response. -/
def parseExecute (data : Bytes) (columns : Columns) (stmtType : StatementType)
    (protoVersion : Int32) : Outcome ProtocolError (ExecuteResult × CasInfo) :=
  Prod.fst <$> go (PacketReader.new data)
where
  /-- The fields in order. -/
  go : Parser (ExecuteResult × CasInfo) := do
    let (casInfo, totalTupleCount) ← parseResponseCode
    let _ ← parseByte -- cache_reusable
    let resultCount ← parseInt
    let resultInfos ← parseResultInfos resultCount
    skipVersionFields protoVersion
    let (tupleCount, rows) ← parseInlineRows columns stmtType true
    return ({ totalTupleCount, resultInfos, tupleCount, rows }, casInfo)

/-- Parse a `Fetch` response. -/
def parseFetch (data : Bytes) (columns : Columns) (stmtType : StatementType) :
    Outcome ProtocolError (FetchResult × CasInfo) :=
  Prod.fst <$> go (PacketReader.new data)
where
  /-- The fields in order. -/
  go : Parser (FetchResult × CasInfo) := do
    let (casInfo, _) ← parseResponseCode
    let tupleCount ← parseInt
    let rows ← (if tupleCount > 0 ∧ columns.1 ≠ [] then parseRowData tupleCount columns stmtType
      else pure [] : Parser (List Row))
    return ({ tupleCount, rows }, casInfo)

/-- Parse a `GetLastInsertId` response. -/
def parseGetLastInsertId (data : Bytes) : Outcome ProtocolError (String × CasInfo) :=
  Prod.fst <$> go (PacketReader.new data)
where
  /-- The fields in order. -/
  go : Parser (String × CasInfo) := do
    let (casInfo, code) ← parseResponseCode
    let id ← (if code > 0 then parseNullTermString (asUsize code) else pure "" : Parser String)
    return (id, casInfo)

/-- Parse a simple response that only contains the token and a response code. -/
def parseSimpleResponse (data : Bytes) : Outcome ProtocolError CasInfo :=
  (fun x => x.1.1) <$> parseResponseCode (PacketReader.new data)

/-! ### The handshake -/

/-- Result of a successful OpenDatabase handshake. -/
structure OpenDatabaseResult where
  /-- CAS info bytes. -/
  casInfo : CasInfo
  /-- Protocol version negotiated with the server. -/
  protoVersion : Int32
  /-- Session ID assigned by the server. -/
  sessionId : Int32
  deriving DecidableEq, Repr

/-- One byte of a slice, with the index checked. -/
def indexByte (bs : List UInt8) (i : ℕ) : Outcome ProtocolError UInt8 :=
  match bs[i]? with
  | some b => .ok b
  | none => .panic

/-- Parse the OpenDatabase response. -/
def parseOpenDatabase (data : Bytes) : Outcome ProtocolError OpenDatabaseResult :=
  Prod.fst <$> go (PacketReader.new data)
where
  /-- The fields in order. -/
  go : Parser OpenDatabaseResult := do
    let (casInfo, _) ← parseResponseCode
    let brokerBytes ← parseRawBytes SIZE_BROKER_INFO
    let versionByte ← lift (indexByte brokerBytes 4)
    let sessionId ← parseInt
    return { casInfo, protoVersion := Int32.ofNat (versionByte &&& 0x3F).toNat, sessionId }

/-- Parse a GetDbVersion response. -/
def parseGetDbVersion (data : Bytes) : Outcome ProtocolError (String × CasInfo) :=
  Prod.fst <$> go (PacketReader.new data)
where
  /-- The fields in order. -/
  go : Parser (String × CasInfo) := do
    let (casInfo, _) ← parseResponseCode
    let versionLen ← getRemaining
    let version ← (if versionLen > 0 then parseNullTermString versionLen else pure "" :
      Parser String)
    return (version, casInfo)

end CubridDriver
