import CubridDriver.Constants

/-!
# Values, result types and errors

The data the driver passes around: the database values, the records the
response parsers return, and the errors of the protocol and of the client.

A floating-point value is kept as its bits: no function of the driver computes
with it. A failed socket call is only passed on, so of an I/O error no more than
its kind is kept.
-/

namespace CubridDriver

/-! ### Values -/

/-- A database value. -/
inductive Value
  /-- SQL `NULL`. -/
  | null
  /-- A Boolean, sent as a short. -/
  | bool (v : Bool)
  /-- A 16-bit integer. -/
  | short (v : Int16)
  /-- A 32-bit integer. -/
  | int (v : Int32)
  /-- A 64-bit integer. -/
  | long (v : Int64)
  /-- A single-precision number, by its bits. -/
  | float (bits : UInt32)
  /-- A double-precision number, by its bits. -/
  | double (bits : UInt64)
  /-- A character string. -/
  | string (v : String)
  /-- A byte string. -/
  | bytes (v : List UInt8)
  /-- A date. -/
  | date (year month day : Int16)
  /-- A time of day. -/
  | time (hour minute second : Int16)
  /-- A date and a time of day. -/
  | timestamp (year month day hour minute second : Int16)
  /-- A date and a time of day, with milliseconds. -/
  | datetime (year month day hour minute second ms : Int16)
  deriving DecidableEq, Repr

/-! ### Errors -/

/-- The kinds of failure of a socket call. -/
inductive IoError
  /-- The read or write timeout has passed. -/
  | timedOut
  /-- The peer has closed the stream. -/
  | unexpectedEof
  /-- The connection is broken. -/
  | brokenPipe
  deriving DecidableEq, Repr

/-- Errors of the protocol layer. -/
inductive ProtocolError
  /-- Invalid packet data. -/
  | invalidPacket (message : String)
  /-- The server answered with an error. -/
  | serverError (code : Int32) (message : String)
  /-- A column type byte that stands for no type. -/
  | unsupportedType (byte : UInt8)
  /-- The data ends before a field does. -/
  | unexpectedEof (expected available : ℕ)
  deriving DecidableEq, Repr

/-- Errors of the client. -/
inductive Error
  /-- A protocol-level error. -/
  | protocol (e : ProtocolError)
  /-- A failed socket call. -/
  | io (e : IoError)
  /-- The DSN has an invalid format. -/
  | invalidDsn (message : String)
  /-- The connection has been closed. -/
  | connectionClosed
  /-- The server returned an error. -/
  | serverError (code : Int32) (message : String)
  deriving DecidableEq, Repr

/-! ### Records returned by the response parsers -/

/-- The CAS info token: four opaque bytes. -/
abbrev CasInfo := UInt8 × UInt8 × UInt8 × UInt8

/-- The bytes of a CAS info token. -/
def CasInfo.toList : CasInfo → List UInt8
  | (a, b, c, d) => [a, b, c, d]

/-- The description of one result column. -/
structure ColumnMetaData where
  /-- The type of the column. -/
  columnType : DataType
  /-- Numeric scale. -/
  scale : Int16
  /-- Precision. -/
  precision : Int32
  /-- Column alias or label. -/
  name : String
  /-- The column name in the schema. -/
  realName : String
  /-- The table the column belongs to. -/
  tableName : String
  /-- Whether the column allows `NULL`. -/
  isNullable : Bool
  /-- Default value expression. -/
  defaultValue : String
  /-- Whether the column is numbered automatically. -/
  isAutoIncrement : Bool
  /-- Whether the column has a unique constraint. -/
  isUniqueKey : Bool
  /-- Whether the column is part of the primary key. -/
  isPrimaryKey : Bool
  /-- Whether the column is a foreign key. -/
  isForeignKey : Bool
  deriving DecidableEq, Repr

/-- The greatest `isize` of a 64-bit platform. -/
def isizeMax : ℕ := 2 ^ 63 - 1

/-- The size of a `ColumnMetaData` in memory. -/
def columnSize : ℕ := 112

/-- A slice of column descriptions. Like every allocation, it spans at most
`isize::MAX` bytes. -/
abbrev Columns : Type :=
  { columns : List ColumnMetaData // columns.length * columnSize ≤ isizeMax }

/-- What one statement of a batch did. -/
structure ResultInfo where
  /-- The type of the statement. -/
  stmtType : StatementType
  /-- The number of affected rows, or `-1` for an error. -/
  resultCount : Int32
  /-- Object identifier. -/
  oid : List UInt8
  deriving DecidableEq, Repr

/-- A row: one value for each column. -/
abbrev Row := List Value

/-- The response to a `PrepareAndExecute` request. -/
structure PrepareAndExecuteResult where
  /-- Server-assigned query handle. -/
  queryHandle : Int32
  /-- The type of the statement. -/
  statementType : StatementType
  /-- Number of bind parameters. -/
  bindCount : Int32
  /-- The result columns. -/
  columns : Columns
  /-- Total number of rows of the result. -/
  totalTupleCount : Int32
  /-- One entry for each statement of the batch. -/
  resultInfos : List ResultInfo
  /-- Number of rows sent along with the response. -/
  tupleCount : Int32
  /-- The rows sent along with the response. -/
  rows : List Row
  deriving DecidableEq, Repr

/-- The response to a `Prepare` request. -/
structure PrepareResult where
  /-- Server-assigned query handle. -/
  queryHandle : Int32
  /-- The type of the statement. -/
  statementType : StatementType
  /-- Number of bind parameters. -/
  bindCount : Int32
  /-- The result columns. -/
  columns : Columns
  deriving DecidableEq, Repr

/-- The response to an `Execute` request. -/
structure ExecuteResult where
  /-- Total number of rows of the result. -/
  totalTupleCount : Int32
  /-- One entry for each statement of the batch. -/
  resultInfos : List ResultInfo
  /-- Number of rows sent along with the response. -/
  tupleCount : Int32
  /-- The rows sent along with the response. -/
  rows : List Row
  deriving DecidableEq, Repr

/-- The response to a `Fetch` request. -/
structure FetchResult where
  /-- Number of rows in this batch. -/
  tupleCount : Int32
  /-- The rows of this batch. -/
  rows : List Row
  deriving DecidableEq, Repr

end CubridDriver
