import CubridDriver.Connection
import CubridDriver.Interpolate
import CubridDriver.Request
import CubridDriver.Response
import CubridDriver.Lib.Prog

/-!
# Operations of a client

What a blocking client does: the framed exchanges of a connection, the operations of a
client, and the ones of a prepared statement.

Nearly every operation is one exchange: build a request with the current CAS info token,
send it, receive a frame, parse it, and keep the token that came with it. The exchange
stops at the first step that fails, with the error of that step, and whatever the socket
has done by then stays done. Only the closing of a query handle ignores its errors.

The fetch loop runs as long as the server makes it run, so it takes fuel. Arithmetic is
checked, as in a debug build.
-/

namespace CubridDriver

/-- The socket calls a connection makes. A call returns its result and the socket it
leaves. -/
class Socket (τ : Type) where
  /-- Write all of the data, and flush. -/
  writeAll : List UInt8 → τ → Except IoError Unit × τ
  /-- Read exactly that many bytes. -/
  readExact : (count : ℕ) → τ → Except IoError { bs : List UInt8 // bs.length = count } × τ

/-- The result of a socket call, as the client passes it on. -/
def ofIo {α : Type} : Except IoError α → Outcome Error α
  | .ok a => .ok a
  | .error e => .err (.io e)

variable {τ : Type} [Socket τ]

/-! ### Framing -/

namespace Connection

/-- Send a framed request. -/
def sendFramed (data : List UInt8) : Prog (Connection τ) Error Unit := fun conn =>
  let (result, stream) := Socket.writeAll data conn.stream
  some (ofIo result, { conn with stream })

/-- Read exactly `count` bytes from the socket. -/
def readExactBytes (count : ℕ) :
    Prog (Connection τ) Error { bs : List UInt8 // bs.length = count } := fun conn =>
  let (result, stream) := Socket.readExact count conn.stream
  some (ofIo result, { conn with stream })

/-- What a length field announces fits an allocation. -/
theorem length_frame_le {lenBuf : { bs : List UInt8 // bs.length = 4 }} :
    BigEndian.decode lenBuf.1 + SIZE_CAS_INFO ≤ isizeMax := by
  have hlt := BigEndian.decode_lt lenBuf.1
  rw [lenBuf.2] at hlt
  simp only [SIZE_CAS_INFO, isizeMax]
  omega

/-- Receive a framed response: the length, then the CAS info token and the body, which
is what is returned. The length does not count the token. -/
def recvFramed : Prog (Connection τ) Error Bytes := do
  let lenBuf ← readExactBytes 4
  let data ← readExactBytes (BigEndian.decode lenBuf.1 + SIZE_CAS_INFO)
  return ⟨data.1, Nat.le_trans (Nat.le_of_eq data.2) length_frame_le⟩

/-- One exchange: send a request, receive a frame, parse it, and keep its CAS info
token. -/
def exchange {α : Type} (request : CasInfo → Outcome Error (List UInt8))
    (parse : Bytes → Outcome ProtocolError (α × CasInfo)) : Prog (Connection τ) Error α := do
  let conn ← Prog.get
  let req ← Prog.lift (request conn.casInfo)
  sendFramed req
  let resp ← recvFramed
  let (result, newCasInfo) ← Prog.lift ((parse resp).mapErr .protocol)
  Prog.modify fun conn => { conn with casInfo := newCasInfo }
  return result

end Connection

open Connection

/-! ### The client -/

/-- The result of a query. -/
structure QueryResult where
  /-- Column metadata. -/
  columns : Columns
  /-- All rows. -/
  rows : List Row
  /-- Total number of matching rows, as the server reports it. -/
  totalCount : Int32
  deriving DecidableEq, Repr

/-- A prepared SQL statement. -/
structure Statement where
  /-- The query handle of the server. -/
  queryHandle : Int32
  /-- The type of the statement. -/
  statementType : StatementType
  /-- Number of bind parameters. -/
  bindCount : Int32
  /-- The result columns. -/
  columns : Columns
  /-- Whether the statement has been closed. -/
  closed : Bool
  /-- The text of the statement. -/
  sql : String
  deriving DecidableEq, Repr

/-- The cast of an `i32` to `u64`, which extends the sign. -/
def asU64 (v : Int32) : ℕ := (v.toInt % 2 ^ 64).toNat

/-- Addition of 64-bit unsigned integers, which panics when it overflows. -/
def checkedAddU64 {ε : Type} (a b : ℕ) : Outcome ε ℕ :=
  if a + b < 2 ^ 64 then .ok (a + b) else .panic

/-- The number of affected rows. -/
def affectedRows (infos : List ResultInfo) : Outcome Error ℕ :=
  infos.foldlM (fun affected info => checkedAddU64 affected (asU64 info.resultCount)) 0

namespace Client

/-- Run a program on the connection of the client, if there is one. -/
def onConn {α : Type} (p : Prog (Connection τ) Error α) : Prog (Client τ) Error α := fun client =>
  match client.conn with
  | none => some (.err .connectionClosed, client)
  | some conn => (p conn).map fun x => (x.1, { client with conn := some x.2 })

/-- Close a query handle. Errors are ignored, and the CAS info token of the response is
not kept. -/
def closeQueryHandle (handle : Int32) : Prog (Client τ) Error Unit :=
  Prog.ignoreErr <| onConn do
    let conn ← Prog.get
    sendFramed (writeCloseReqHandle handle conn.casInfo)
    let resp ← recvFramed
    let _ ← Prog.lift ((parseSimpleResponse resp).mapErr .protocol)
    return ()

/-- Close a query handle that the server has assigned. -/
def releaseHandle (handle : Int32) : Prog (Client τ) Error Unit :=
  if handle > 0 then closeQueryHandle handle else pure ()

/-- The loop of `fetchRemaining`. -/
def fetchLoop (queryHandle : Int32) (columns : Columns) (stmtType : StatementType)
    (totalCount : Int32) : ℕ → Int32 → List Row → Prog (Client τ) Error (List Row)
  | 0, _, _ => Prog.outOfFuel
  | fuel + 1, fetchedCount, rows =>
      if fetchedCount < totalCount then do
        let fetchResult ← onConn (exchange (writeFetch queryHandle fetchedCount DEFAULT_FETCH_SIZE)
          fun resp => parseFetch resp columns stmtType)
        if fetchResult.tupleCount = 0 then pure rows
        else do
          let fetchedCount' ← Prog.lift (checkedAdd fetchedCount fetchResult.tupleCount)
          fetchLoop queryHandle columns stmtType totalCount fuel fetchedCount'
            (rows ++ fetchResult.rows)
      else pure rows

/-- Fetch the rows that did not come with the first response. -/
def fetchRemaining (fuel : ℕ) (queryHandle : Int32) (columns : Columns) (stmtType : StatementType)
    (totalCount : Int32) (rows : List Row) : Prog (Client τ) Error (List Row) :=
  fetchLoop queryHandle columns stmtType totalCount fuel (Int32.ofNat rows.length) rows

/-- Fetch remaining rows if needed. -/
def fetchIfNeeded (fuel : ℕ) (queryHandle : Int32) (columns : Columns) (stmtType : StatementType)
    (totalCount : Int32) (rows : List Row) : Prog (Client τ) Error (List Row) :=
  if stmtType.isSelect ∧ Int32.ofNat rows.length < totalCount then
    fetchRemaining fuel queryHandle columns stmtType totalCount rows
  else pure rows

/-- The exchange that prepares and executes a statement in a single round trip. -/
def prepareAndExecute (sql : String) (params : List Value) :
    Prog (Client τ) Error PrepareAndExecuteResult := do
  let client ← Prog.get
  let finalSql := interpolateParams sql params
  onConn (exchange (fun casInfo => .ok (writePrepareAndExecute finalSql client.autoCommit casInfo))
    fun resp => parsePrepareAndExecute resp client.protoVersion)

/-- Execute a SQL statement and return the number of affected rows. -/
def execute (sql : String) (params : List Value) : Prog (Client τ) Error ℕ := do
  let result ← prepareAndExecute sql params
  releaseHandle result.queryHandle
  Prog.lift (affectedRows result.resultInfos)

/-- Execute a SQL query and return all rows. -/
def query (fuel : ℕ) (sql : String) (params : List Value) :
    Prog (Client τ) Error QueryResult := do
  let result ← prepareAndExecute sql params
  let allRows ← fetchIfNeeded fuel result.queryHandle result.columns result.statementType
    result.totalTupleCount result.rows
  releaseHandle result.queryHandle
  return { columns := result.columns, rows := allRows, totalCount := result.totalTupleCount }

/-- Prepare a SQL statement for repeated execution. -/
def prepare (sql : String) : Prog (Client τ) Error Statement := do
  let client ← Prog.get
  let result ← onConn (exchange (fun casInfo => .ok (writePrepare sql client.autoCommit casInfo))
    parsePrepare)
  return {
    queryHandle := result.queryHandle, statementType := result.statementType
    bindCount := result.bindCount, columns := result.columns, closed := false, sql }

/-- End the current transaction. -/
def endTran (tranType : TransactionType) : Prog (Client τ) Error Unit :=
  onConn (exchange (fun casInfo => .ok (writeEndTran tranType casInfo))
    fun resp => (fun newCasInfo => ((), newCasInfo)) <$> parseSimpleResponse resp)

/-- Commit the current transaction. -/
def commit : Prog (Client τ) Error Unit := endTran .commit

/-- Roll back the current transaction. -/
def rollback : Prog (Client τ) Error Unit := endTran .rollback

/-- Ping the server: ask for its version. -/
def ping : Prog (Client τ) Error String := do
  let client ← Prog.get
  onConn (exchange (fun casInfo => .ok (writeGetDbVersion client.autoCommit casInfo))
    parseGetDbVersion)

/-- Set the auto-commit mode. -/
def setAutoCommit (autoCommit : Bool) : Prog (Client τ) Error Unit :=
  Prog.modify fun client => { client with autoCommit }

end Client

/-! ### Prepared statements -/

namespace Statement

/-- The exchange that executes a prepared statement. -/
def executeHandle (stmt : Statement) : Prog (Client τ) Error ExecuteResult := do
  let client ← Prog.get
  Client.onConn (exchange
    (fun casInfo => .ok (writeExecute stmt.queryHandle stmt.statementType [] client.autoCommit
      casInfo))
    fun resp => parseExecute resp stmt.columns stmt.statementType client.protoVersion)

/-- Execute a prepared statement. With parameters, it is executed by its text. -/
def execute (stmt : Statement) (params : List Value) : Prog (Client τ) Error ℕ :=
  if stmt.closed then Prog.throw .connectionClosed
  else if params ≠ [] then Client.execute stmt.sql params
  else do
    let result ← stmt.executeHandle
    Prog.lift (affectedRows result.resultInfos)

/-- Query a prepared statement. With parameters, it is executed by its text. -/
def queryWith (fuel : ℕ) (stmt : Statement) (params : List Value) :
    Prog (Client τ) Error QueryResult :=
  if stmt.closed then Prog.throw .connectionClosed
  else if params ≠ [] then Client.query fuel stmt.sql params
  else do
    let result ← stmt.executeHandle
    let allRows ← Client.fetchIfNeeded fuel stmt.queryHandle stmt.columns stmt.statementType
      result.totalTupleCount result.rows
    return { columns := stmt.columns, rows := allRows, totalCount := result.totalTupleCount }

/-- Close a prepared statement, and return what becomes of it. -/
def close (stmt : Statement) : Prog (Client τ) Error Statement :=
  if stmt.closed then pure stmt
  else if stmt.queryHandle > 0 then do
    Client.closeQueryHandle stmt.queryHandle
    return { stmt with closed := true, queryHandle := 0 }
  else pure { stmt with closed := true }

end Statement

end CubridDriver
