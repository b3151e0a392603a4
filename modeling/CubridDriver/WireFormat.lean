import CubridDriver.Readers
import CubridDriver.Response
import CubridDriver.Lib.Format

/-!
# The formats of the responses

How a server writes a response, as formats: for each record, the set of the byte strings
that stand for it. A server is free in what it writes where the driver does not look (row
numbers, object identifiers, cache times), and in a few places where it does: a column
type may come behind a flag byte, a `NULL` may have any size that is not positive, a
string may have any number of terminators. The formats leave it this freedom.

They are written down from the documentation of the wire format, not from the parsers.
`CubridDriver.readsFinal_prepareAndExecute` and its companions say that the parsers read
them: any word of the format of a response is parsed to that response.
-/

namespace CubridDriver

open Checked Format PacketReader PacketWriter

/-! ### Fields -/

/-- A 32-bit integer. -/
def intFormat (v : Int32) : Language UInt8 := {writeInt v}

/-- A Boolean flag: `1` for true, and any other byte for false. -/
def flagFormat (flag : Bool) : Language UInt8 := {w | ∃ b : UInt8, w = [b] ∧ decide (b = 1) = flag}

/-- A string: its bytes, and null terminators. A string that ends in a null character cannot
be told from its terminators, so it has no format. -/
def textFormat (s : String) : Language UInt8 :=
  {w | NoTrailingNul s ∧ ∃ n, w = Utf8.encode s ++ List.replicate n 0}

/-- A string behind its length. -/
def lengthStringFormat (s : String) : Language UInt8 :=
  {w | ∃ text ∈ textFormat s, text.length < 2 ^ 31 ∧
    w = writeInt (Int32.ofNat text.length) ++ text}

/-- The number of elements of a list. -/
def countFormat (n : ℕ) : Language UInt8 := {w | n < 2 ^ 31 ∧ w = writeInt (Int32.ofNat n)}

/-! ### Columns and result infos -/

/-- A column type, perhaps behind a byte with the flag `0x80`. -/
def typeFormat (t : DataType) : Language UInt8 :=
  {w | w = [t.toU8] ∨ ∃ flag : UInt8, flag &&& 0x80 ≠ 0 ∧ w = [flag, t.toU8]}

/-- The description of a column. -/
def columnFormat (col : ColumnMetaData) : Language UInt8 :=
  typeFormat col.columnType *
  ({writeShort col.scale} *
  (intFormat col.precision *
  (lengthStringFormat col.name *
  (lengthStringFormat col.realName *
  (lengthStringFormat col.tableName *
  (flagFormat col.isNullable *
  (lengthStringFormat col.defaultValue *
  (flagFormat col.isAutoIncrement *
  (flagFormat col.isUniqueKey *
  (flagFormat col.isPrimaryKey *
  (any 1 * -- is_reverse_index
  (any 1 * -- is_reverse_unique
  (flagFormat col.isForeignKey *
  any 1))))))))))))) -- is_shared

/-- A statement type; any byte that stands for none is read as an unknown one. -/
def stmtTypeFormat (t : StatementType) : Language UInt8 :=
  {w | ∃ b, w = [b] ∧ StatementType.fromU8 b = t}

/-- An object identifier. -/
def oidFormat (oid : List UInt8) : Language UInt8 := {w | w = oid ∧ w.length = SIZE_OID}

/-- What one statement of a batch did. -/
def resultInfoFormat (info : ResultInfo) : Language UInt8 :=
  stmtTypeFormat info.stmtType *
  (intFormat info.resultCount *
  (oidFormat info.oid *
  (any 4 * -- cache_time_sec
  any 4))) -- cache_time_usec

/-! ### Rows -/

/-- A value as a column of the given type holds it, without its size. Values of the other
types have no format in it. -/
def valueFormat : DataType → Value → Language UInt8
  | .char, .string s | .string, .string s | .nchar, .string s | .varNChar, .string s
  | .enum, .string s | .numeric, .string s => textFormat s
  | .short, .short v => {writeShort v}
  | .int, .int v => {writeInt v}
  | .bigint, .long v => {writeLong v}
  | .float, .float bits => {writeFloat bits}
  | .double, .double bits | .monetary, .double bits => {writeDouble bits}
  | .date, .date year month day => {writeShort year} * ({writeShort month} * {writeShort day})
  | .time, .time hour minute second =>
      {writeShort hour} * ({writeShort minute} * {writeShort second})
  | .timestamp, .timestamp year month day hour minute second =>
      {writeShort year} * ({writeShort month} * ({writeShort day} *
      ({writeShort hour} * ({writeShort minute} * {writeShort second}))))
  | .datetime, .datetime year month day hour minute second ms =>
      {writeShort year} * ({writeShort month} * ({writeShort day} *
      ({writeShort hour} * ({writeShort minute} * ({writeShort second} * {writeShort ms})))))
  | .bit, .bytes v | .varBit, .bytes v | .blob, .bytes v | .clob, .bytes v
  | .set, .bytes v | .multiset, .bytes v | .sequence, .bytes v | .object, .bytes v => {v}
  | _, _ => 0

/-- A size that is not positive, for `NULL`. -/
def nullFormat : Value → Language UInt8
  | .null => {w | ∃ size : Int32, size ≤ 0 ∧ w = writeInt size}
  | _ => 0

/-- The size of a value, and the value. -/
def plainFormat (t : DataType) (v : Value) : Language UInt8 :=
  {w | ∃ payload ∈ valueFormat t v, payload ≠ [] ∧ payload.length < 2 ^ 31 ∧
    w = writeInt (Int32.ofNat payload.length) ++ payload}

/-- The size of a value, its type, and the value. -/
def taggedFormat (v : Value) : Language UInt8 :=
  {w | ∃ t : DataType, ∃ payload ∈ valueFormat t v, payload ≠ [] ∧ payload.length + 1 < 2 ^ 31 ∧
    w = writeInt (Int32.ofNat (payload.length + 1)) ++ ([t.toU8] ++ payload)}

/-- The value of one column. In the result of a call, and in a column of type `NULL`, a
value comes with its type. -/
def cellFormat (isCallType : Bool) (col : ColumnMetaData) (v : Value) : Language UInt8 :=
  nullFormat v +
    if isCallType ∨ col.columnType = .null then taggedFormat v else plainFormat col.columnType v

/-- A row: its number, an object identifier, and a value for each column. -/
def rowFormat (isCallType : Bool) (columns : Columns) (row : Row) : Language UInt8 :=
  if row.length = columns.1.length then
    any 4 * (any SIZE_OID * (columns.1.zipWith (cellFormat isCallType) row).prod)
  else 0

/-- Rows, one after another. -/
def rowsFormat (columns : Columns) (stmtType : StatementType) (rows : List Row) : Language UInt8 :=
  (rows.map (rowFormat stmtType.isCall columns)).prod

/-! ### Responses -/

/-- What newer protocol versions add. -/
def versionFormat (protoVersion : Int32) : Language UInt8 :=
  (if protoVersion > 1 then any 1 else 1) * (if protoVersion > 4 then any 4 else 1)

/-- The rows that come with the response to a query: a code, their number, and the rows.
Where there are none, this may be missing; in the response to another statement it is. -/
def inlineFormat (columns : Columns) (stmtType : StatementType) (tupleCount : Int32)
    (rows : List Row) : Language UInt8 :=
  {w | tupleCount = Int32.ofNat rows.length ∧
    (w = [] ∧ rows = [] ∨ stmtType.isSelect ∧
      w ∈ any 4 * (countFormat rows.length * rowsFormat columns stmtType rows))}

/-- The CAS info token, and a response code that announces no error. -/
def headFormat (casInfo : CasInfo) (code : Int32) : Language UInt8 :=
  {w | 0 ≤ code ∧ w = casInfo.toList ++ writeInt code}

/-- The response to a `PrepareAndExecute` request. -/
def prepareAndExecuteFormat (protoVersion : Int32) (casInfo : CasInfo)
    (r : PrepareAndExecuteResult) : Language UInt8 :=
  headFormat casInfo r.queryHandle *
  (any 4 * -- result cache lifetime
  (stmtTypeFormat r.statementType *
  (intFormat r.bindCount *
  (any 1 * -- is_updatable
  (countFormat r.columns.1.length *
  ((r.columns.1.map columnFormat).prod *
  (intFormat r.totalTupleCount *
  (any 1 * -- cache_reusable
  (countFormat r.resultInfos.length *
  ((r.resultInfos.map resultInfoFormat).prod *
  (versionFormat protoVersion *
  inlineFormat r.columns r.statementType r.tupleCount r.rows)))))))))))

/-- The response to an `Execute` request. -/
def executeFormat (protoVersion : Int32) (casInfo : CasInfo) (columns : Columns)
    (stmtType : StatementType) (r : ExecuteResult) : Language UInt8 :=
  headFormat casInfo r.totalTupleCount *
  (any 1 * -- cache_reusable
  (countFormat r.resultInfos.length *
  ((r.resultInfos.map resultInfoFormat).prod *
  (versionFormat protoVersion *
  inlineFormat columns stmtType r.tupleCount r.rows))))

/-- The response to a `Fetch` request. -/
def fetchFormat (casInfo : CasInfo) (columns : Columns) (stmtType : StatementType)
    (rows : List Row) : Language UInt8 :=
  {w | ∃ code, w ∈ headFormat casInfo code *
    (countFormat rows.length * rowsFormat columns stmtType rows)}

/-- A response that says no more than that there is no error. -/
def simpleFormat (casInfo : CasInfo) : Language UInt8 := {w | ∃ code, w ∈ headFormat casInfo code}

/-- The response to a `GetDbVersion` request: the version takes up what is left. -/
def getDbVersionFormat (casInfo : CasInfo) (version : String) : Language UInt8 :=
  {w | ∃ code, w ∈ headFormat casInfo code * textFormat version}

/-- The response to a `GetLastInsertId` request, whose code is the length of the number. -/
def getLastInsertIdFormat (casInfo : CasInfo) (id : String) : Language UInt8 :=
  {w | ∃ text ∈ textFormat id, text.length < 2 ^ 31 ∧
    w ∈ headFormat casInfo (Int32.ofNat text.length) * {text}}

/-- The broker info: the fifth byte has the protocol version in its low six bits. -/
def brokerInfoFormat (protoVersion : Int32) : Language UInt8 :=
  {w | w.length = SIZE_BROKER_INFO ∧
    ∃ b : UInt8, w[4]? = some b ∧ protoVersion = Int32.ofNat (b &&& 0x3F).toNat}

/-- The response to an `OpenDatabase` request. -/
def openDatabaseFormat (r : OpenDatabaseResult) : Language UInt8 :=
  {w | ∃ code, w ∈ headFormat r.casInfo code *
    (brokerInfoFormat r.protoVersion * intFormat r.sessionId)}

end CubridDriver
