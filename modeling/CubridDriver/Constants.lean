import Mathlib.Algebra.Group.Nat.Defs
import Mathlib.Data.List.Basic

/-!
# Protocol constants

The numbers of the CAS wire protocol: the sizes of its fields, the function
codes of the requests, and the two enumerations a response is decoded with – the
column types (`CubridDriver.DataType`) and the statement types
(`CubridDriver.StatementType`), whose constructors stand for the byte that is
sent.
-/

namespace CubridDriver

/-! ### Sizes -/

/-- Size of the CAS info header in framed packets. -/
def SIZE_CAS_INFO : ℕ := 4

/-- Size of the broker info in the open-database response. -/
def SIZE_BROKER_INFO : ℕ := 16

/-- Size of the database name in the open-database request. -/
def DB_NAME_SIZE : ℕ := 32

/-- Size of the user name in the open-database request. -/
def DB_USER_SIZE : ℕ := 32

/-- Size of the password in the open-database request. -/
def DB_PASSWORD_SIZE : ℕ := 32

/-- Size of the extended info in the open-database request. -/
def DB_EXTENDED_SIZE : ℕ := 512

/-- Size of the reserved bytes of the open-database request. -/
def DB_RESERVED_SIZE : ℕ := 20

/-- Size of the open-database request. -/
def DB_OPEN_PAYLOAD_SIZE : ℕ := 628

/-- Default fetch size for server-side cursors. -/
def DEFAULT_FETCH_SIZE : Int32 := 100

/-- Size of an object identifier. -/
def SIZE_OID : ℕ := 8

/-- Size of a byte on the wire. -/
def SIZE_BYTE : ℕ := 1

/-- Size of a short on the wire. -/
def SIZE_SHORT : ℕ := 2

/-- Size of an int on the wire. -/
def SIZE_INT : ℕ := 4

/-- Size of a long on the wire. -/
def SIZE_LONG : ℕ := 8

/-- Size of a float on the wire. -/
def SIZE_FLOAT : ℕ := 4

/-- Size of a double on the wire. -/
def SIZE_DOUBLE : ℕ := 8

/-- Size of a datetime on the wire: seven shorts. -/
def SIZE_DATETIME : ℕ := 14

/-! ### Request codes and flags -/

/-- The function codes of the requests this driver sends. -/
inductive FunctionCode
  /-- Commit or roll back a transaction. -/
  | endTran
  /-- Prepare a statement. -/
  | prepare
  /-- Execute a prepared statement. -/
  | execute
  /-- Close a request handle. -/
  | closeReqHandle
  /-- Fetch rows from a server-side cursor. -/
  | fetch
  /-- Get the database version string. -/
  | getDbVersion
  /-- Close the connection. -/
  | conClose
  /-- Get the last insert ID. -/
  | getLastInsertId
  /-- Prepare and execute in a single round trip. -/
  | prepareAndExecute
  deriving DecidableEq, Repr

/-- The byte a function code is sent as. -/
def FunctionCode.toU8 : FunctionCode → UInt8
  | .endTran => 1
  | .prepare => 2
  | .execute => 3
  | .closeReqHandle => 6
  | .fetch => 8
  | .getDbVersion => 15
  | .conClose => 31
  | .getLastInsertId => 40
  | .prepareAndExecute => 41

/-- The two ways to end a transaction. -/
inductive TransactionType
  /-- Commit the transaction. -/
  | commit
  /-- Roll the transaction back. -/
  | rollback
  deriving DecidableEq, Repr

/-- The byte a transaction type is sent as. -/
def TransactionType.toU8 : TransactionType → UInt8
  | .commit => 1
  | .rollback => 2

/-- Prepare flag. -/
def PREPARE_NORMAL : UInt8 := 0x00

/-- Execute flag. -/
def EXECUTE_NORMAL : UInt8 := 0x00

/-- Execute and query all results. -/
def EXECUTE_QUERY_ALL : UInt8 := 0x02

/-! ### Column types -/

/-- The column types of the protocol. -/
inductive DataType
  | null | char | string | nchar | varNChar | bit | varBit | numeric | int | short
  | monetary | float | double | date | time | timestamp | set | multiset | sequence
  | object | bigint | datetime | blob | clob | enum
  deriving DecidableEq, Repr

/-- The byte a column type is sent as. -/
def DataType.toU8 : DataType → UInt8
  | .null => 0
  | .char => 1
  | .string => 2
  | .nchar => 3
  | .varNChar => 4
  | .bit => 5
  | .varBit => 6
  | .numeric => 7
  | .int => 8
  | .short => 9
  | .monetary => 10
  | .float => 11
  | .double => 12
  | .date => 13
  | .time => 14
  | .timestamp => 15
  | .set => 16
  | .multiset => 17
  | .sequence => 18
  | .object => 19
  | .bigint => 21
  | .datetime => 22
  | .blob => 23
  | .clob => 24
  | .enum => 25

/-- Read a column type from its byte; `20` and everything above `25` is none. -/
def DataType.fromU8 (v : UInt8) : Option DataType :=
  match v.toNat with
  | 0 => some .null
  | 1 => some .char
  | 2 => some .string
  | 3 => some .nchar
  | 4 => some .varNChar
  | 5 => some .bit
  | 6 => some .varBit
  | 7 => some .numeric
  | 8 => some .int
  | 9 => some .short
  | 10 => some .monetary
  | 11 => some .float
  | 12 => some .double
  | 13 => some .date
  | 14 => some .time
  | 15 => some .timestamp
  | 16 => some .set
  | 17 => some .multiset
  | 18 => some .sequence
  | 19 => some .object
  | 21 => some .bigint
  | 22 => some .datetime
  | 23 => some .blob
  | 24 => some .clob
  | 25 => some .enum
  | _ => none

/-- Reading the byte a column type is sent as gives the column type. -/
@[simp] theorem DataType.fromU8_toU8 (t : DataType) : DataType.fromU8 t.toU8 = some t := by
  cases t <;> rfl

/-- The bytes of the column types stay below the flag bit `0x80`. -/
theorem DataType.toU8_and_flag (t : DataType) : t.toU8 &&& 0x80 = 0 := by
  cases t <;> rfl

/-! ### Statement types -/

/-- The statement types the server reports. -/
inductive StatementType
  | alterClass | alterSerial | commitWork | registerDb | createClass | createIndex
  | createTrigger | createSerial | dropDatabase | dropClass | dropIndex | dropLabel
  | dropTrigger | dropSerial | evaluate | renameClass | rollbackWork | grant | revoke
  | statistics | insert | select | update | delete | call | callSP | unknown
  deriving DecidableEq, Repr

/-- Read a statement type from its byte. -/
def StatementType.fromU8 (v : UInt8) : StatementType :=
  match v.toNat with
  | 0 => .alterClass
  | 1 => .alterSerial
  | 2 => .commitWork
  | 3 => .registerDb
  | 4 => .createClass
  | 5 => .createIndex
  | 6 => .createTrigger
  | 7 => .createSerial
  | 8 => .dropDatabase
  | 9 => .dropClass
  | 10 => .dropIndex
  | 11 => .dropLabel
  | 12 => .dropTrigger
  | 13 => .dropSerial
  | 14 => .evaluate
  | 15 => .renameClass
  | 16 => .rollbackWork
  | 17 => .grant
  | 18 => .revoke
  | 19 => .statistics
  | 20 => .insert
  | 21 => .select
  | 22 => .update
  | 23 => .delete
  | 24 => .call
  | 0x7E => .callSP
  | _ => .unknown

/-- The byte a statement type is sent as. -/
def StatementType.toU8 : StatementType → UInt8
  | .alterClass => 0
  | .alterSerial => 1
  | .commitWork => 2
  | .registerDb => 3
  | .createClass => 4
  | .createIndex => 5
  | .createTrigger => 6
  | .createSerial => 7
  | .dropDatabase => 8
  | .dropClass => 9
  | .dropIndex => 10
  | .dropLabel => 11
  | .dropTrigger => 12
  | .dropSerial => 13
  | .evaluate => 14
  | .renameClass => 15
  | .rollbackWork => 16
  | .grant => 17
  | .revoke => 18
  | .statistics => 19
  | .insert => 20
  | .select => 21
  | .update => 22
  | .delete => 23
  | .call => 24
  | .callSP => 0x7E
  | .unknown => 0x7F

/-- Reading the byte a statement type is sent as gives the statement type. -/
@[simp] theorem StatementType.fromU8_toU8 (t : StatementType) :
    StatementType.fromU8 t.toU8 = t := by
  cases t <;> rfl

/-- A query. -/
def StatementType.isSelect (t : StatementType) : Bool := t = .select

/-- A stored procedure call. -/
def StatementType.isCall (t : StatementType) : Bool := t = .call || t = .callSP

end CubridDriver
