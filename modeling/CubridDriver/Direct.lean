import CubridDriver.Calls
import CubridDriver.Replies
import CubridDriver.Session

/-!
# Without a wire

What a driver is for: a database that answers calls, and a client that makes them. There are
no bytes here, no frames, no tokens and no requests that could be misread. A database is any
state that changes with every call (`CubridDriver.Database`); the client calls it directly, in
the order in which the driver sends its requests.

What an application sees of the driver is meant to be this client, which is the subject of
`CubridDriver.Transparent`.
-/

namespace CubridDriver

open Prog

/-! ### Databases -/

/-- How the rows of a query handle are to be read. -/
structure HandleInfo where
  /-- The type of the statement. -/
  stmtType : StatementType
  /-- The result columns. -/
  columns : Columns
  deriving DecidableEq

/-- What is answered to a call. -/
abbrev Call.Answer : Call → Type
  | .prepareAndExecute .. => PrepareAndExecuteResult
  | .prepare .. => PrepareResult
  | .execute .. => ExecuteResult
  | .fetch .. => FetchResult
  | .getLastInsertId => String
  | .getDbVersion _ => String
  | .closeReqHandle _ | .endTran _ | .conClose => Unit

/-- A database with states `δ`. It answers each call, with an error code and a message if it
refuses it, and it assigns handles: one that is not in use, which is in use from then on
until it is closed. -/
structure Database (δ : Type) where
  /-- Answer a call. -/
  call : (c : Call) → δ → Except (Int32 × String) c.Answer × δ
  /-- The handles that are in use. -/
  info : δ → Int32 → Option HandleInfo
  /-- A text that is executed gets a handle. -/
  info_prepareAndExecute : ∀ {sql autoCommit db r db'},
    call (.prepareAndExecute sql autoCommit) db = (.ok r, db') →
    info db r.queryHandle = none ∧ info db' r.queryHandle = some ⟨r.statementType, r.columns⟩
  /-- A text that is prepared gets a handle. -/
  info_prepare : ∀ {sql autoCommit db r db'}, call (.prepare sql autoCommit) db = (.ok r, db') →
    info db r.queryHandle = none ∧ info db' r.queryHandle = some ⟨r.statementType, r.columns⟩
  /-- A handle stays in use. -/
  info_call : ∀ {c db handle i}, info db handle = some i → c ≠ .closeReqHandle handle →
    c ≠ .conClose → info (call c db).2 handle = some i

/-! ### Calling it -/

/-- A client that calls its database directly. -/
structure Direct (δ : Type) where
  /-- It has not been closed. -/
  connected : Bool
  /-- The auto-commit mode. -/
  autoCommit : Bool
  /-- The state of the database. -/
  db : δ

namespace Database

variable {δ : Type} (D : Database δ)

/-- What a client makes of an answer. -/
def outcome {α : Type} : Except (Int32 × String) α → Outcome Error α
  | .ok a => .ok a
  | .error (code, message) => .err (.protocol (.serverError code message))

/-- Make a call. -/
def ask (c : Call) : Prog (Direct δ) Error c.Answer := fun d =>
  if d.connected then some (outcome (D.call c d.db).1, { d with db := (D.call c d.db).2 })
  else some (.err .connectionClosed, d)

theorem ask_ne_panic (c : Call) (d d' : Direct δ) : D.ask c d ≠ some (.panic, d') := by
  rw [ask]
  split
  · cases (D.call c d.db).1 <;> exact fun h => by cases h
  · exact fun h => by cases h

/-- Make a call that is about rows from a position on, if that is one. -/
def fetch (cursor : Cursor) (fetched : Int32) : Prog (Direct δ) Error FetchResult := do
  let d ← Prog.get
  if d.connected then do
    let start ← Prog.lift (checkedAdd fetched 1)
    D.ask (.fetch cursor.handle start DEFAULT_FETCH_SIZE)
  else Prog.throw .connectionClosed

/-- Close a handle, whatever is answered. -/
def closeHandle (handle : Int32) : Prog (Direct δ) Error Unit :=
  Prog.ignoreErr (D.ask (.closeReqHandle handle))

/-- Close a handle that has been assigned. -/
def releaseHandle (handle : Int32) : Prog (Direct δ) Error Unit :=
  if handle > 0 then D.closeHandle handle else pure ()

/-- Fetch rows until there are as many as there should be, or no more come. -/
def fetchLoop (cursor : Cursor) (totalCount : Int32) :
    ℕ → Int32 → List Row → Prog (Direct δ) Error (List Row)
  | 0, _, _ => Prog.outOfFuel
  | fuel + 1, fetchedCount, rows =>
      if fetchedCount < totalCount then do
        let batch ← D.fetch cursor fetchedCount
        if batch.tupleCount = 0 then pure rows
        else do
          let fetchedCount' ← Prog.lift (checkedAdd fetchedCount batch.tupleCount)
          fetchLoop cursor totalCount fuel fetchedCount' (rows ++ batch.rows)
      else pure rows

/-- Fetch the rows that are missing, if it is a query. -/
def fetchIfNeeded (fuel : ℕ) (cursor : Cursor) (totalCount : Int32) (rows : List Row) :
    Prog (Direct δ) Error (List Row) :=
  if cursor.stmtType.isSelect ∧ Int32.ofNat rows.length < totalCount then
    D.fetchLoop cursor totalCount fuel (Int32.ofNat rows.length) rows
  else pure rows

/-- Execute a text. -/
def prepareAndExecute (sql : String) (params : List Value) :
    Prog (Direct δ) Error PrepareAndExecuteResult := do
  let d ← Prog.get
  D.ask (.prepareAndExecute (interpolateParams sql params) d.autoCommit)

/-- Execute a text and count the rows it affects. -/
def execute (sql : String) (params : List Value) : Prog (Direct δ) Error ℕ := do
  let r ← D.prepareAndExecute sql params
  D.releaseHandle r.queryHandle
  Prog.lift (affectedRows r.resultInfos)

/-- Execute a text and collect its rows. -/
def query (fuel : ℕ) (sql : String) (params : List Value) : Prog (Direct δ) Error QueryResult := do
  let r ← D.prepareAndExecute sql params
  let rows ← D.fetchIfNeeded fuel r.cursor r.totalTupleCount r.rows
  D.releaseHandle r.queryHandle
  return { columns := r.columns, rows, totalCount := r.totalTupleCount }

/-- Prepare a text. -/
def prepare (sql : String) : Prog (Direct δ) Error Statement := do
  let d ← Prog.get
  let r ← D.ask (.prepare sql d.autoCommit)
  return {
    queryHandle := r.queryHandle, statementType := r.statementType, bindCount := r.bindCount
    columns := r.columns, closed := false, sql }

/-- Ask for the version of the database. -/
def ping : Prog (Direct δ) Error String := do
  let d ← Prog.get
  D.ask (.getDbVersion d.autoCommit)

/-- Execute a statement by its handle. -/
def executeHandle (stmt : Statement) : Prog (Direct δ) Error ExecuteResult := do
  let d ← Prog.get
  D.ask (.execute stmt.queryHandle [] stmt.statementType.isSelect d.autoCommit)

/-- Execute a statement and count the rows it affects. -/
def stmtExecute (stmt : Statement) (params : List Value) : Prog (Direct δ) Error ℕ :=
  if stmt.closed then Prog.throw .connectionClosed
  else if params ≠ [] then D.execute stmt.sql params
  else do
    let r ← D.executeHandle stmt
    Prog.lift (affectedRows r.resultInfos)

/-- Execute a statement and collect its rows. -/
def stmtQueryWith (fuel : ℕ) (stmt : Statement) (params : List Value) :
    Prog (Direct δ) Error QueryResult :=
  if stmt.closed then Prog.throw .connectionClosed
  else if params ≠ [] then D.query fuel stmt.sql params
  else do
    let r ← D.executeHandle stmt
    let rows ← D.fetchIfNeeded fuel stmt.cursor r.totalTupleCount r.rows
    return { columns := stmt.columns, rows, totalCount := r.totalTupleCount }

/-- Close a statement, and its handle if it has one. -/
def stmtClose (stmt : Statement) : Prog (Direct δ) Error Statement :=
  if stmt.closed then pure stmt
  else if stmt.queryHandle > 0 then do
    D.closeHandle stmt.queryHandle
    return { stmt with closed := true, queryHandle := 0 }
  else pure { stmt with closed := true }

/-- Close the client. -/
def closeClient (d : Direct δ) : Direct δ :=
  if d.connected then { d with connected := false, db := (D.call .conClose d.db).2 } else d

end Database

/-! ### Sessions -/

/-- A client that calls its database directly, and the statements it has prepared. -/
structure DirectSession (δ : Type) where
  /-- The client. -/
  client : Direct δ
  /-- The statements, in the order in which they were prepared. -/
  statements : List Statement

namespace DirectSession

variable {δ : Type}

/-- A session with a client that has been connected. -/
def start (db : δ) (autoCommit : Bool) : DirectSession δ := ⟨⟨true, autoCommit, db⟩, []⟩

/-- Call an operation of the client. -/
def onClient {α : Type} (p : Prog (Direct δ) Error α) : Prog (DirectSession δ) Error α := fun s =>
  (p s.client).map fun x => (x.1, { s with client := x.2 })

/-- Call an operation of a statement; there must be such a statement. -/
def withStatement {α : Type} (i : ℕ) (f : Statement → Prog (DirectSession δ) Error α) :
    Prog (DirectSession δ) Error α := fun s =>
  match s.statements[i]? with
  | some stmt => f stmt s
  | none => none

/-- Call an operation. -/
def perform (D : Database δ) (fuel : ℕ) : Operation → Prog (DirectSession δ) Error Reply
  | .execute sql params => .affected <$> onClient (D.execute sql params)
  | .query sql params => .rows <$> onClient (D.query fuel sql params)
  | .prepare sql => do
      let stmt ← onClient (D.prepare sql)
      Prog.modify fun s => { s with statements := s.statements ++ [stmt] }
      return .prepared stmt
  | .commit => (fun _ => .done) <$> onClient (D.ask (.endTran .commit))
  | .rollback => (fun _ => .done) <$> onClient (D.ask (.endTran .rollback))
  | .ping => .version <$> onClient D.ping
  | .stmtExecute i params =>
      withStatement i fun stmt => .affected <$> onClient (D.stmtExecute stmt params)
  | .stmtQueryWith i params =>
      withStatement i fun stmt => .rows <$> onClient (D.stmtQueryWith fuel stmt params)
  | .stmtClose i =>
      withStatement i fun stmt => do
        let stmt' ← onClient (D.stmtClose stmt)
        Prog.modify fun s => { s with statements := s.statements.set i stmt' }
        return .done
  | .setAutoCommit autoCommit =>
      (fun _ => .done) <$> onClient (Prog.modify fun d => { d with autoCommit })
  | .close => do
      Prog.modify fun s => { s with client := D.closeClient s.client }
      return .done

end DirectSession

end CubridDriver
