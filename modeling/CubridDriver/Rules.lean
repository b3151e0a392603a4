import CubridDriver.Client

/-!
# Rules for the operations of a client

What an exchange does, and what the closing of a query handle does, is all there is to
an operation: it makes one exchange, then perhaps more of them, and may close a query
handle in the end. So a fact about every operation is proved of these parts, and
`CubridDriver.OperationRules` carries it to the operations.
-/

namespace CubridDriver

open Prog Connection

variable {τ : Type}

/-! ### Programs on the connection -/

/-- The connection of the client, as long as there is one, satisfies `R`. -/
def Client.Over (R : Connection τ → Prop) (client : Client τ) : Prop :=
  ∀ conn, client.conn = some conn → R conn

theorem ensures_onConn {α : Type} {p : Prog (Connection τ) Error α}
    {P E X : Connection τ → Prop} {Q : α → Connection τ → Prop} (h : Ensures P p Q E X) :
    Ensures (Client.Over P) (Client.onConn p) (fun a => Client.Over (Q a)) (Client.Over E)
      (Client.Over X) := by
  intro client x client' hP hx
  rw [Client.onConn] at hx
  cases hconn : client.conn with
  -- without a connection there is nothing to run, and nothing to say of it
  | none =>
    rw [hconn] at hx
    obtain ⟨rfl, rfl⟩ := Prod.mk.inj (Option.some.inj hx)
    intro conn hsome
    rw [hconn] at hsome
    cases hsome
  | some conn =>
    rw [hconn] at hx
    obtain ⟨⟨y, conn'⟩, hy, heq⟩ := Option.map_eq_some_iff.mp hx
    obtain ⟨rfl, rfl⟩ := Prod.mk.inj heq
    have hpost := h conn y conn' (hP conn hconn) hy
    cases y <;> exact fun _ hsome => Option.some.inj hsome ▸ hpost

theorem triple_onConn {α : Type} {p : Prog (Connection τ) Error α} {P E : Connection τ → Prop}
    {Q : α → Connection τ → Prop} (h : Triple P p Q E) :
    Triple (Client.Over P) (Client.onConn p) (fun a => Client.Over (Q a)) (Client.Over E) :=
  ensures_onConn h

/-- Run a program on the connection there is. -/
theorem onConn_eq_some {α : Type} {p : Prog (Connection τ) Error α} {client : Client τ}
    {conn conn' : Connection τ} {x : Outcome Error α} (hconn : client.conn = some conn)
    (hp : p conn = some (x, conn')) :
    Client.onConn p client = some (x, { client with conn := some conn' }) := by
  rw [Client.onConn, hconn]
  change Option.map _ (p conn) = _
  rw [hp]
  rfl

/-- A program that returns has run on a connection. -/
theorem conn_of_onConn {α : Type} {p : Prog (Connection τ) Error α} {client client' : Client τ}
    {a : α} (h : Client.onConn p client = some (.ok a, client')) :
    ∃ conn, client'.conn = some conn := by
  rw [Client.onConn] at h
  split at h
  · cases h
  · obtain ⟨⟨x, conn'⟩, -, heq⟩ := Option.map_eq_some_iff.mp h
    obtain ⟨-, rfl⟩ := Prod.mk.inj heq
    exact ⟨conn', rfl⟩

theorem ends_onConn_some {α : Type} {p : Prog (Connection τ) Error α} {client : Client τ}
    {conn : Connection τ} {R : Connection τ → Prop} (hconn : client.conn = some conn)
    (h : Ends p conn R) : Ends (Client.onConn p) client fun client' =>
      ∃ conn', client' = { client with conn := some conn' } ∧ R conn' := by
  obtain ⟨x, conn', hx, hpanic, hR⟩ := h
  exact ⟨x, _, onConn_eq_some hconn hx, hpanic, conn', rfl, hR⟩

/-- A program that ends on every connection ends on a client, which may have none. -/
theorem ends_onConn {α : Type} {p : Prog (Connection τ) Error α}
    (h : ∀ conn, Ends p conn fun _ => True) (client : Client τ) :
    Ends (Client.onConn p) client fun _ => True := by
  rcases hconn : client.conn with - | conn
  · exact ⟨.err .connectionClosed, client, by rw [Client.onConn, hconn], nofun, trivial⟩
  · obtain ⟨x, client', hx, hpanic, -⟩ := ends_onConn_some hconn (h conn)
    exact ⟨x, client', hx, hpanic, trivial⟩

variable [Socket τ]

section Parts

variable {P E : Connection τ → Prop}

/-- **The rule of the exchange**, from what sending and receiving do. -/
theorem ensures_exchange {α : Type} {request : CasInfo → Outcome Error (List UInt8)}
    {parse : Bytes → Outcome ProtocolError (α × CasInfo)} {S : List UInt8 → Connection τ → Prop}
    {T : Bytes → Connection τ → Prop} {Q : α → Connection τ → Prop} {X : Connection τ → Prop}
    (hsend : ∀ conn data, request conn.casInfo = .ok data →
      Ensures (fun c => P c ∧ c = conn) (sendFramed data) (fun _ => S data) E X)
    (hrecv : ∀ data, Ensures (S data) recvFramed T E X)
    (hrefuse : ∀ conn e, request conn.casInfo = .err e → P conn → E conn)
    (hpanic : ∀ conn, request conn.casInfo = .panic → P conn → X conn)
    (herr : ∀ resp conn e, parse resp = .err e → T resp conn → E conn)
    (hstop : ∀ resp conn, parse resp = .panic → T resp conn → X conn)
    (hQ : ∀ resp conn a casInfo, parse resp = .ok (a, casInfo) → T resp conn →
      Q a { conn with casInfo }) :
    Ensures P (exchange request parse) Q E X := by
  refine ensures_bind ensures_get fun conn => ?_
  refine ensures_bind (ensures_lift (fun _ _ heq h => And.intro heq h) ?_ ?_) fun req => ?_
  · rintro e heq c ⟨hc, rfl⟩
    exact hrefuse c e heq hc
  · rintro heq c ⟨hc, rfl⟩
    exact hpanic c heq hc
  refine ensures_assume fun heq => ?_
  refine ensures_bind (hsend conn req heq) fun _ => ensures_bind (hrecv req) fun resp => ?_
  -- a response that is not accepted leaves the token as it was
  refine ensures_bind (Q := fun x c => parse resp = .ok x ∧ T resp c)
    (ensures_lift (fun x c hx h => ⟨Outcome.mapErr_eq_ok.mp hx, h⟩) ?_ ?_) fun x => ?_
  · intro e he c hc
    obtain ⟨e', he', -⟩ := Outcome.mapErr_eq_err.mp he
    exact herr resp c e' he' hc
  · exact fun hx c hc => hstop resp c (Outcome.mapErr_eq_panic.mp hx) hc
  exact ensures_bind (Q := fun _ => Q x.1)
    (ensures_modify fun c h => hQ resp c x.1 x.2 h.1 h.2) fun _ => ensures_pure fun _ h => h

theorem triple_exchange {α : Type} {request : CasInfo → Outcome Error (List UInt8)}
    {parse : Bytes → Outcome ProtocolError (α × CasInfo)} {S : List UInt8 → Connection τ → Prop}
    {T : Bytes → Connection τ → Prop} {Q : α → Connection τ → Prop}
    (hsend : ∀ conn data, request conn.casInfo = .ok data →
      Triple (fun c => P c ∧ c = conn) (sendFramed data) (fun _ => S data) E)
    (hrecv : ∀ data, Triple (S data) recvFramed T E) (hP : ∀ conn, P conn → E conn)
    (hT : ∀ resp conn, T resp conn → E conn)
    (hQ : ∀ resp conn a casInfo, parse resp = .ok (a, casInfo) → T resp conn →
      Q a { conn with casInfo }) :
    Triple P (exchange request parse) Q E :=
  ensures_exchange hsend hrecv (fun conn _ _ => hP conn) (fun conn _ => hP conn)
    (fun resp conn _ _ => hT resp conn) (fun resp conn _ => hT resp conn) hQ

/-- **The rule of closing a query handle.** -/
theorem triple_closeQueryHandle {handle : Int32} {S : Connection τ → Prop}
    (hsend : ∀ conn, Triple (fun c => P c ∧ c = conn)
      (sendFramed (writeCloseReqHandle handle conn.casInfo)) (fun _ => S) E)
    (hrecv : Triple S recvFramed (fun _ => E) E) :
    Triple (Client.Over P) (Client.closeQueryHandle handle) (fun _ => Client.Over E)
      (Client.Over E) := by
  refine triple_ignoreErr (triple_onConn ?_)
  refine triple_bind triple_get fun conn => ?_
  refine triple_bind (hsend conn) fun _ => triple_bind hrecv fun resp => ?_
  refine triple_bind (triple_lift (fun _ _ _ h => h) fun _ h => h) fun _ => ?_
  exact triple_pure fun _ h => h

end Parts

/-- What an exchange returns has been parsed from a response. -/
theorem parsed_of_exchange {α : Type} {client client' : Client τ}
    {request : CasInfo → Outcome Error (List UInt8)}
    {parse : Bytes → Outcome ProtocolError (α × CasInfo)} {a : α}
    (h : Client.onConn (exchange request parse) client = some (.ok a, client')) :
    ∃ resp casInfo, parse resp = .ok (a, casInfo) := by
  rw [Client.onConn] at h
  split at h
  · cases h
  · obtain ⟨⟨x, conn'⟩, hx, heq⟩ := Option.map_eq_some_iff.mp h
    obtain ⟨rfl, -⟩ := Prod.mk.inj heq
    obtain ⟨conn, _, -, h⟩ := bind_eq_ok.mp hx
    obtain ⟨req, _, -, h⟩ := bind_eq_ok.mp h
    obtain ⟨_, _, -, h⟩ := bind_eq_ok.mp h
    obtain ⟨resp, _, -, h⟩ := bind_eq_ok.mp h
    obtain ⟨⟨result, casInfo⟩, _, hparse, h⟩ := bind_eq_ok.mp h
    obtain ⟨_, _, -, h⟩ := bind_eq_ok.mp h
    obtain ⟨hresult, -⟩ := Prod.mk.inj (Option.some.inj h)
    obtain ⟨hparse, -⟩ := Prod.mk.inj (Option.some.inj hparse)
    exact ⟨resp, casInfo, Outcome.ok.inj hresult ▸ Outcome.mapErr_eq_ok.mp hparse⟩

/-! ### Arithmetic

It is carried out, or it overflows; there is no error to return. -/

theorem checkedAdd_ne_err (a b : Int32) (e : Error) : checkedAdd a b ≠ .err e := by
  rw [checkedAdd]
  split
  · exact fun h => by cases h
  · exact fun h => by cases h

theorem affectedRows_ne_err (infos : List ResultInfo) (e : Error) :
    affectedRows infos ≠ .err e := by
  have hadd (a b : ℕ) : checkedAddU64 a b ≠ .err e := by
    rw [checkedAddU64]
    split
    · exact fun h => by cases h
    · exact fun h => by cases h
  have hfold (n : ℕ) : infos.foldlM
      (fun affected info => checkedAddU64 affected (asU64 info.resultCount)) n ≠ .err e := by
    induction infos generalizing n with
    | nil => exact fun h => by cases h
    | cons info infos ih =>
      rw [List.foldlM_cons]
      intro h
      rcases Outcome.bind_eq_err.mp h with h | ⟨m, -, h⟩
      · exact hadd _ _ h
      · exact ih m h
  exact hfold 0

/-! ### The shape of the operations -/

/-- What the client knows of a statement when it fetches rows: the handle of the server, and
how to read a row. -/
structure Cursor where
  /-- The query handle. -/
  handle : Int32
  /-- The columns. -/
  columns : Columns
  /-- The type of the statement. -/
  stmtType : StatementType
  /-- Whether the handle has been assigned for one call, which closes it. -/
  owned : Bool

/-- The cursor of a statement that has been executed by its text. -/
def PrepareAndExecuteResult.cursor (r : PrepareAndExecuteResult) : Cursor :=
  ⟨r.queryHandle, r.columns, r.statementType, true⟩

/-- The cursor of a prepared statement. -/
def Statement.cursor (stmt : Statement) : Cursor :=
  ⟨stmt.queryHandle, stmt.columns, stmt.statementType, false⟩

/-- Fetch rows, behind those that are there already. -/
def Cursor.fetch (cursor : Cursor) (fetched : Int32) : Prog (Client τ) Error FetchResult :=
  Client.onConn (exchange (writeFetch cursor.handle fetched DEFAULT_FETCH_SIZE)
    fun resp => parseFetch resp cursor.columns cursor.stmtType)

section Shape

variable {P A B E X : Client τ → Prop}

/-- **The fetch loop**, by induction on its fuel. -/
theorem ensures_fetchLoop {cursor : Cursor}
    (hfetch : ∀ fetched, Ensures A (cursor.fetch fetched) (fun _ => A) E X)
    (hpanic : ∀ client, A client → X client) (totalCount : Int32) (fuel : ℕ)
    (fetchedCount : Int32) (rows : List Row) :
    Ensures A (Client.fetchLoop cursor.handle cursor.columns cursor.stmtType totalCount fuel
      fetchedCount rows) (fun _ => A) E X := by
  induction fuel generalizing fetchedCount rows with
  | zero => exact ensures_outOfFuel
  | succ fuel ih =>
    refine ensures_ite (fun _ => ?_) fun _ => ensures_pure fun _ hc => hc
    refine ensures_bind (hfetch fetchedCount) fun fetchResult => ?_
    refine ensures_ite (fun _ => ensures_pure fun _ hc => hc) fun _ => ?_
    refine ensures_bind (Q := fun _ => A) ?_ fun fetchedCount' => ih fetchedCount' _
    -- an addition is carried out, or overflows
    refine ensures_lift (fun _ _ _ hc => hc) (fun e he => ?_) fun _ => hpanic
    exact absurd he (checkedAdd_ne_err _ _ e)

theorem ensures_fetchIfNeeded {cursor : Cursor}
    (hfetch : ∀ fetched, Ensures A (cursor.fetch fetched) (fun _ => A) E X)
    (hpanic : ∀ client, A client → X client) (fuel : ℕ) (totalCount : Int32) (rows : List Row) :
    Ensures A (Client.fetchIfNeeded fuel cursor.handle cursor.columns cursor.stmtType totalCount
      rows) (fun _ => A) E X :=
  ensures_ite (fun _ => ensures_fetchLoop hfetch hpanic _ _ _ _) fun _ =>
    ensures_pure fun _ hc => hc

/-- A query handle is closed if the server has assigned one. -/
theorem ensures_releaseHandle {handle : Int32}
    (hclose : handle > 0 → Ensures A (Client.closeQueryHandle handle) (fun _ => B) E X)
    (hkeep : ¬handle > 0 → ∀ client, A client → B client) :
    Ensures A (Client.releaseHandle handle) (fun _ => B) E X :=
  ensures_ite hclose fun h => ensures_pure (hkeep h)

/-- **The rule of `execute`.** -/
theorem ensures_execute {Q : PrepareAndExecuteResult → Client τ → Prop} {sql : String}
    {params : List Value} (hfirst : Ensures P (Client.prepareAndExecute sql params) Q E X)
    (hrelease : ∀ r, Ensures (Q r) (Client.releaseHandle r.queryHandle) (fun _ => B) E X)
    (hpanic : ∀ client, B client → X client) :
    Ensures P (Client.execute sql params) (fun _ => B) E X := by
  refine ensures_bind hfirst fun r => ensures_bind (hrelease r) fun _ => ?_
  refine ensures_lift (fun _ _ _ hc => hc) (fun e he => ?_) fun _ => hpanic
  exact absurd he (affectedRows_ne_err _ e)

/-- **The rule of `query`.** -/
theorem ensures_query {Q : PrepareAndExecuteResult → Client τ → Prop} {sql : String}
    {params : List Value} (hfirst : Ensures P (Client.prepareAndExecute sql params) Q E X)
    (hfetch : ∀ r fetched, Ensures (Q r) (r.cursor.fetch fetched) (fun _ => Q r) E X)
    (hpanic : ∀ r client, Q r client → X client)
    (hrelease : ∀ r, Ensures (Q r) (Client.releaseHandle r.queryHandle) (fun _ => B) E X)
    (fuel : ℕ) : Ensures P (Client.query fuel sql params) (fun _ => B) E X := by
  refine ensures_bind hfirst fun r => ?_
  refine ensures_bind (ensures_fetchIfNeeded (hfetch r) (hpanic r) fuel _ _) fun allRows => ?_
  exact ensures_bind (hrelease r) fun _ => ensures_pure fun _ hc => hc

/-- **The rule of a statement that is executed.** -/
theorem triple_stmtExecute {stmt : Statement} {params : List Value}
    (hrefuse : ∀ client, P client → E client)
    (htext : Triple P (Client.execute stmt.sql params) (fun _ => B) E)
    (hhandle : stmt.closed = false → Triple P stmt.executeHandle (fun _ => B) E)
    (hstop : ∀ client, B client → E client) :
    Triple P (stmt.execute params) (fun _ => B) E := by
  refine triple_ite (fun _ => triple_throw hrefuse) fun hopen => ?_
  refine triple_ite (fun _ => htext) fun _ => ?_
  refine triple_bind (hhandle (Bool.eq_false_iff.mpr hopen)) fun result => ?_
  exact triple_lift (fun _ _ _ hc => hc) hstop

/-- **The rule of a statement that is queried.** -/
theorem triple_stmtQueryWith {stmt : Statement} {params : List Value} {fuel : ℕ}
    (hrefuse : ∀ client, P client → E client)
    (htext : Triple P (Client.query fuel stmt.sql params) (fun _ => B) E)
    (hhandle : stmt.closed = false → Triple P stmt.executeHandle (fun _ => A) E)
    (hfetch : ∀ fetched, Triple A (stmt.cursor.fetch fetched) (fun _ => A) E)
    (hstop : ∀ client, A client → E client) (hkeep : ∀ client, A client → B client) :
    Triple P (stmt.queryWith fuel params) (fun _ => B) E := by
  refine triple_ite (fun _ => triple_throw hrefuse) fun hopen => ?_
  refine triple_ite (fun _ => htext) fun _ => ?_
  refine triple_bind (hhandle (Bool.eq_false_iff.mpr hopen)) fun result => ?_
  exact triple_bind (ensures_fetchIfNeeded hfetch hstop fuel _ _) fun _ => triple_pure hkeep

end Shape

/-! ### The operations -/

/-- The requests whose response is parsed for a result: framed with the current CAS info
token, under any function code but the one that closes a query handle. -/
def AsksResult (request : CasInfo → Outcome Error (List UInt8)) : Prop :=
  ∀ casInfo data, request casInfo = .ok data →
    ∃ code arguments, code ≠ .closeReqHandle ∧ data = framed code arguments casInfo

/-- A builder that cannot fail. -/
theorem asksResult_framed (code : FunctionCode) (hcode : code ≠ .closeReqHandle)
    (arguments : List UInt8) : AsksResult fun casInfo => .ok (framed code arguments casInfo) :=
  fun _ _ h => ⟨code, arguments, hcode, (Outcome.ok.inj h).symm⟩

theorem asksResult_writeFetch (queryHandle currentTupleCount fetchSize : Int32) :
    AsksResult (writeFetch queryHandle currentTupleCount fetchSize) := by
  intro casInfo data h
  obtain ⟨start, -, hdata⟩ := Outcome.bind_eq_ok.mp h
  exact ⟨.fetch, _, nofun, (Outcome.ok.inj hdata).symm⟩

/-- What is known of the parts of an operation. It starts with `P`; after an exchange
`A` holds, and goes on to hold, and `B` holds in the end. When the operation fails, `E`
holds. -/
structure OperationRules (P A B E : Client τ → Prop) : Prop where
  /-- The first exchange. -/
  first : ∀ {α : Type} (request : CasInfo → Outcome Error (List UInt8))
    (parse : Bytes → Outcome ProtocolError (α × CasInfo)), AsksResult request →
    Triple P (Client.onConn (exchange request parse)) (fun _ => A) E
  /-- The exchanges that follow. -/
  next : ∀ {α : Type} (request : CasInfo → Outcome Error (List UInt8))
    (parse : Bytes → Outcome ProtocolError (α × CasInfo)), AsksResult request →
    Triple A (Client.onConn (exchange request parse)) (fun _ => A) E
  /-- The closing of a query handle. -/
  close : ∀ handle, Triple A (Client.closeQueryHandle handle) (fun _ => B) E
  /-- An operation need not close a query handle. -/
  keep : ∀ client, A client → B client
  /-- It may be refused before anything is sent. -/
  refuse : ∀ client, P client → E client
  /-- It may fail after everything has been received. -/
  stop : ∀ client, B client → E client

namespace OperationRules

variable {P A B E : Client τ → Prop} (h : OperationRules P A B E)
include h

theorem releaseHandle (handle : Int32) :
    Triple A (Client.releaseHandle handle) (fun _ => B) E :=
  ensures_releaseHandle (fun _ => h.close handle) fun _ => h.keep

theorem fail (client : Client τ) (hc : A client) : E client := h.stop client (h.keep client hc)

theorem fetch (cursor : Cursor) (fetched : Int32) :
    Triple A (cursor.fetch fetched) (fun _ => A) E :=
  h.next _ _ (asksResult_writeFetch _ _ _)

theorem prepareAndExecute (sql : String) (params : List Value) :
    Triple P (Client.prepareAndExecute sql params) (fun _ => A) E :=
  ensures_get_bind fun _ _ => h.first _ _ (asksResult_framed .prepareAndExecute nofun _)

theorem execute (sql : String) (params : List Value) :
    Triple P (Client.execute sql params) (fun _ => B) E :=
  ensures_execute (h.prepareAndExecute sql params) (fun _ => h.releaseHandle _) h.stop

theorem query (fuel : ℕ) (sql : String) (params : List Value) :
    Triple P (Client.query fuel sql params) (fun _ => B) E :=
  ensures_query (h.prepareAndExecute sql params) (fun r => h.fetch r.cursor) (fun _ => h.fail)
    (fun _ => h.releaseHandle _) fuel

theorem prepare (sql : String) : Triple P (Client.prepare sql) (fun _ => B) E :=
  ensures_get_bind fun _ _ =>
    triple_bind (h.first _ _ (asksResult_framed .prepare nofun _)) fun _ => triple_pure h.keep

theorem endTran (tranType : TransactionType) :
    Triple P (Client.endTran tranType) (fun _ => B) E :=
  triple_post (h.first _ _ (asksResult_framed .endTran nofun _)) fun _ => h.keep

theorem ping : Triple P (Client.ping (τ := τ)) (fun _ => B) E :=
  ensures_get_bind fun _ _ =>
    triple_post (h.first _ _ (asksResult_framed .getDbVersion nofun _)) fun _ => h.keep

theorem executeHandle (stmt : Statement) : Triple P stmt.executeHandle (fun _ => A) E :=
  ensures_get_bind fun _ _ => h.first _ _ (asksResult_framed .execute nofun _)

theorem stmtExecute (stmt : Statement) (params : List Value) :
    Triple P (stmt.execute params) (fun _ => B) E :=
  triple_stmtExecute h.refuse (h.execute _ _)
    (fun _ => triple_post (h.executeHandle stmt) fun _ => h.keep) h.stop

theorem stmtQueryWith (fuel : ℕ) (stmt : Statement) (params : List Value) :
    Triple P (stmt.queryWith fuel params) (fun _ => B) E :=
  triple_stmtQueryWith h.refuse (h.query fuel _ _) (fun _ => h.executeHandle stmt)
    (h.fetch stmt.cursor) h.fail h.keep

end OperationRules

/-! ### What no operation touches -/

section Untouched

variable {R : Client τ → Prop}
  (hR : ∀ client conn conn', client.conn = some conn → R client →
    R { client with conn := some conn' })
include hR

omit [Socket τ] in
/-- A program on the connection does not take it, nor make one, and leaves the rest of the
client alone. -/
theorem triple_onConn_keeps {α : Type} (p : Prog (Connection τ) Error α) :
    Triple R (Client.onConn p) (fun _ => R) R := by
  intro client x client' hclient hx
  rw [Client.onConn] at hx
  cases hconn : client.conn with
  | none =>
    rw [hconn] at hx
    obtain ⟨rfl, rfl⟩ := Prod.mk.inj (Option.some.inj hx)
    exact hclient
  | some conn =>
    rw [hconn] at hx
    obtain ⟨⟨y, conn'⟩, -, heq⟩ := Option.map_eq_some_iff.mp hx
    obtain ⟨rfl, rfl⟩ := Prod.mk.inj heq
    cases y <;> exact hR client conn conn' hconn hclient

theorem triple_closeQueryHandle_keeps (handle : Int32) :
    Triple R (Client.closeQueryHandle handle) (fun _ => R) R :=
  triple_ignoreErr (triple_onConn_keeps hR _)

/-- **What no exchange touches**, no operation does. -/
theorem operationRules_keeps : OperationRules R R R R where
  first _ _ _ := triple_onConn_keeps hR _
  next _ _ _ := triple_onConn_keeps hR _
  close := triple_closeQueryHandle_keeps hR
  keep _ h := h
  refuse _ h := h
  stop _ h := h

end Untouched

/-- **No operation takes the connection**, or makes one. -/
theorem operationRules_isSome (b : Bool) :
    OperationRules (fun client : Client τ => client.conn.isSome = b)
      (fun client => client.conn.isSome = b) (fun client => client.conn.isSome = b)
      (fun client => client.conn.isSome = b) :=
  operationRules_keeps fun client conn conn' hconn h => by
    rw [hconn] at h
    exact h

/-- **The rule of closing a statement.** -/
theorem triple_stmtClose {P E : Client τ → Prop}
    (hclose : ∀ handle, Triple P (Client.closeQueryHandle handle) (fun _ => E) E)
    (hP : ∀ client, P client → E client) (stmt : Statement) :
    Triple P stmt.close (fun _ => E) E := by
  refine triple_ite (fun _ => triple_pure hP) fun _ => ?_
  refine triple_ite (fun _ => ?_) fun _ => triple_pure hP
  exact triple_bind (hclose _) fun _ => triple_pure fun _ hc => hc

end CubridDriver
