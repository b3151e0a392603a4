import CubridDriver.Rules
import CubridDriver.Lib.Lts

/-!
# Sessions

A client, the statements it has prepared, and any sequence of operations on them. A
session is a transition system; one step is one call of an operation, whatever it
returns. A call that would not end, because the server keeps the fetch loop going, has
no step.
-/

namespace CubridDriver

open Prog

/-- The operations of a client, and of the statements it has prepared, which go by their
number. -/
inductive Operation
  | execute (sql : String) (params : List Value)
  | query (sql : String) (params : List Value)
  | prepare (sql : String)
  | commit
  | rollback
  | ping
  | stmtExecute (i : ℕ) (params : List Value)
  | stmtQueryWith (i : ℕ) (params : List Value)
  | stmtClose (i : ℕ)
  | setAutoCommit (autoCommit : Bool)
  | close
  deriving DecidableEq, Repr

/-- What an operation returns is read from a response. -/
def Operation.Receives : Operation → Prop
  | stmtClose _ | setAutoCommit _ | close => False
  | _ => True

/-- The statement an operation is about. -/
def Operation.target (statements : List Statement) : Operation → Option Statement
  | stmtExecute i _ | stmtQueryWith i _ | stmtClose i => statements[i]?
  | _ => none

/-- The auto-commit mode after an operation that was called with the given one. -/
def Operation.mode (autoCommit : Bool) : Operation → Bool
  | setAutoCommit autoCommit' => autoCommit'
  | _ => autoCommit

/-- What an operation returns. -/
inductive Reply
  /-- The number of affected rows. -/
  | affected (n : ℕ)
  /-- The result of a query. -/
  | rows (result : QueryResult)
  /-- A statement has been prepared. -/
  | prepared (stmt : Statement)
  /-- The version of the server. -/
  | version (v : String)
  /-- Nothing. -/
  | done
  deriving DecidableEq, Repr

/-- A client and the statements it has prepared. -/
structure Session (τ : Type) where
  /-- The client. -/
  client : Client τ
  /-- The statements, in the order in which they were prepared. -/
  statements : List Statement
  /-- What the socket was left as when the client was closed. -/
  shut : Option τ

namespace Session

variable {τ : Type}

/-- A session with a client that has been connected. -/
def start (conn : Connection τ) (autoCommit : Bool) (protoVersion : Int32) : Session τ :=
  ⟨⟨some conn, autoCommit, protoVersion⟩, [], none⟩

/-- Call an operation of the client. -/
def onClient {α : Type} (p : Prog (Client τ) Error α) : Prog (Session τ) Error α := fun s =>
  (p s.client).map fun x => (x.1, { s with client := x.2 })

/-- Call an operation of a statement; there must be such a statement. -/
def withStatement {α : Type} (i : ℕ) (f : Statement → Prog (Session τ) Error α) :
    Prog (Session τ) Error α := fun s =>
  match s.statements[i]? with
  | some stmt => f stmt s
  | none => none

variable [Socket τ]

/-- Close the client: the last request is sent, and whatever becomes of it the
connection is gone. -/
def closeClient (s : Session τ) : Session τ :=
  match s.client.conn with
  | none => s
  | some conn =>
      { s with
        client := s.client.close
        shut := some (Socket.writeAll (writeConClose conn.casInfo) conn.stream).2 }

@[simp] theorem conn_closeClient (s : Session τ) : s.closeClient.client.conn = none := by
  rw [closeClient]
  split
  · assumption
  · rfl

/-- Call an operation. -/
def perform (fuel : ℕ) : Operation → Prog (Session τ) Error Reply
  | .execute sql params => .affected <$> onClient (Client.execute sql params)
  | .query sql params => .rows <$> onClient (Client.query fuel sql params)
  | .prepare sql => do
      let stmt ← onClient (Client.prepare sql)
      Prog.modify fun s => { s with statements := s.statements ++ [stmt] }
      return .prepared stmt
  | .commit => (fun _ => .done) <$> onClient Client.commit
  | .rollback => (fun _ => .done) <$> onClient Client.rollback
  | .ping => .version <$> onClient Client.ping
  | .stmtExecute i params =>
      withStatement i fun stmt => .affected <$> onClient (stmt.execute params)
  | .stmtQueryWith i params =>
      withStatement i fun stmt => .rows <$> onClient (stmt.queryWith fuel params)
  | .stmtClose i =>
      withStatement i fun stmt => do
        let stmt' ← onClient stmt.close
        Prog.modify fun s => { s with statements := s.statements.set i stmt' }
        return .done
  | .setAutoCommit autoCommit => (fun _ => .done) <$> onClient (Client.setAutoCommit autoCommit)
  | .close => do
      Prog.modify closeClient
      return .done

/-- The transition system of a session: a label is an operation, and how often it may go
round the fetch loop. -/
def lts (init : Session τ → Prop) : Lts (Session τ) (ℕ × Operation) Unit where
  init := init
  step s call :=
    match perform call.1 call.2 s with
    | some (_, s') => .ok s'
    | none => .err ()

/-- A step is a call that ends. -/
theorem step_eq_ok {init : Session τ → Prop} {s s' : Session τ} {call : ℕ × Operation} :
    (lts init).step s call = .ok s' ↔ ∃ x, perform call.1 call.2 s = some (x, s') := by
  simp only [lts]
  split
  · rename_i x t hperform
    rw [hperform, Outcome.ok.injEq]
    simp
  · rename_i hperform
    simp [hperform]

/-! ### Rules -/

section Rules

variable {α β : Type} {P E : Client τ → Prop} {Q : α → Client τ → Prop}

omit [Socket τ] in
theorem triple_onClient {p : Prog (Client τ) Error α} (h : Triple P p Q E) :
    Triple (fun s => P s.client) (onClient p) (fun a s => Q a s.client) fun s => E s.client := by
  intro s x s' hs hx
  obtain ⟨⟨y, client'⟩, hy, heq⟩ := Option.map_eq_some_iff.mp hx
  obtain ⟨rfl, rfl⟩ := Prod.mk.inj heq
  have hpost := h s.client y client' hs hy
  cases y <;> exact hpost

omit [Socket τ] in
theorem triple_withStatement {i : ℕ} {f : Statement → Prog (Session τ) Error α}
    {P E : Session τ → Prop} {Q : α → Session τ → Prop} (h : ∀ stmt, Triple P (f stmt) Q E) :
    Triple P (withStatement i f) Q E := by
  intro s x s' hs hx
  rw [withStatement] at hx
  split at hx
  · exact h _ s x s' hs hx
  · cases hx

/-- **An operation that receives something** ends as its parts do. -/
theorem triple_perform {A B : Client τ → Prop} (h : OperationRules P A B E) {op : Operation}
    (hop : op.Receives) (fuel : ℕ) :
    Triple (fun s => P s.client) (perform fuel op) (fun _ s => B s.client)
      fun s => E s.client := by
  cases op with
  | execute sql params => exact triple_map (triple_onClient (h.execute sql params))
  | query sql params => exact triple_map (triple_onClient (h.query fuel sql params))
  -- the statement is added to the list, which is not about the client
  | prepare sql =>
    refine triple_bind (triple_onClient (h.prepare sql)) fun stmt => ?_
    refine triple_bind (triple_modify (R := fun s => B s.client) fun _ hs => hs) fun _ => ?_
    exact triple_pure fun _ hs => hs
  | commit => exact triple_map (triple_onClient (h.endTran _))
  | rollback => exact triple_map (triple_onClient (h.endTran _))
  | ping => exact triple_map (triple_onClient h.ping)
  | stmtExecute i params =>
    exact triple_withStatement fun stmt => triple_map (triple_onClient (h.stmtExecute stmt params))
  | stmtQueryWith i params =>
    exact triple_withStatement fun stmt =>
      triple_map (triple_onClient (h.stmtQueryWith fuel stmt params))
  | stmtClose i => exact hop.elim
  | setAutoCommit autoCommit => exact hop.elim
  | close => exact hop.elim

/-- **The other operations**, which do no more than close a query handle. -/
theorem triple_perform_other {P E : Connection τ → Prop}
    (hclose : ∀ handle, Triple (Client.Over P) (Client.closeQueryHandle handle)
      (fun _ => Client.Over E) (Client.Over E))
    (hP : ∀ conn, P conn → E conn) {op : Operation} (hop : ¬op.Receives) (fuel : ℕ) :
    Triple (fun s => s.client.Over P) (perform fuel op) (fun _ s => s.client.Over E)
      fun s => s.client.Over E := by
  have hPE : ∀ client : Client τ, client.Over P → client.Over E :=
    fun client h conn hconn => hP conn (h conn hconn)
  cases op with
  | stmtClose i =>
    refine triple_withStatement fun stmt => ?_
    refine triple_bind (triple_onClient (triple_stmtClose hclose hPE stmt)) fun stmt' => ?_
    refine triple_bind (triple_modify (R := fun s => s.client.Over E) fun _ hs => hs) fun _ => ?_
    exact triple_pure fun _ hs => hs
  | setAutoCommit autoCommit =>
    exact triple_map (triple_onClient (triple_modify fun client h => hPE client h))
  | close =>
    refine triple_bind (triple_modify (R := fun s => s.client.Over E) fun s hs => ?_) fun _ => ?_
    -- a closed client has no connection left to speak of
    · rw [closeClient]
      split
      · exact hPE s.client hs
      · nofun
    · exact triple_pure fun _ hs => hs
  | _ => exact absurd trivial hop

end Rules

/-! ### What a step can do -/

/-- What is known of the parts of one operation, which is about the statement `target` if it
is about any. It starts with `P`; with `A` it has a cursor; `N` holds when a statement has
been prepared, and `C` when the statement it is about has been closed at the server. However
else it ends, `E` holds. -/
structure StepRules (target : Option Statement) (P : Client τ → Prop)
    (A : Cursor → Client τ → Prop) (E : Client τ → Prop) (N : Statement → Client τ → Prop)
    (C : Client τ → Prop) : Prop where
  /-- A text is executed. -/
  prepareAndExecute : ∀ sql params,
    Triple P (Client.prepareAndExecute sql params) (fun r => A r.cursor) E
  /-- A statement is executed. -/
  executeHandle : ∀ stmt, target = some stmt → stmt.closed = false →
    Triple P stmt.executeHandle (fun _ => A stmt.cursor) E
  /-- Rows are fetched. -/
  fetch : ∀ cursor fetched, Triple (A cursor) (cursor.fetch fetched) (fun _ => A cursor) E
  /-- The query handle of a text is closed. -/
  release : ∀ cursor : Cursor, cursor.owned = true → cursor.handle > 0 →
    Triple (A cursor) (Client.closeQueryHandle cursor.handle) (fun _ => E) E
  /-- A cursor may be left as it is. -/
  leave : ∀ cursor client, A cursor client → E client
  /-- A statement is prepared. -/
  prepare : ∀ sql, Triple P (Client.prepare sql) N E
  /-- A transaction is ended. -/
  endTran : ∀ tranType, Triple P (Client.endTran tranType) (fun _ => E) E
  /-- The server is asked for its version. -/
  ping : Triple P Client.ping (fun _ => E) E
  /-- The query handle of a statement is closed. -/
  closeHandle : ∀ stmt, target = some stmt → stmt.closed = false → stmt.queryHandle > 0 →
    Triple P (Client.closeQueryHandle stmt.queryHandle) (fun _ => C) E
  /-- Nothing may be done. -/
  stay : ∀ client, P client → E client
  /-- The auto-commit mode is of no account. -/
  setAutoCommit : ∀ client autoCommit, P client → E { client with autoCommit }

namespace StepRules

variable {target : Option Statement} {P E C : Client τ → Prop} {A : Cursor → Client τ → Prop}
  {N : Statement → Client τ → Prop} (h : StepRules target P A E N C)
include h

theorem releaseHandle {cursor : Cursor} (howned : cursor.owned = true) :
    Triple (A cursor) (Client.releaseHandle cursor.handle) (fun _ => E) E :=
  ensures_releaseHandle (h.release cursor howned) fun _ => h.leave cursor

theorem execute (sql : String) (params : List Value) :
    Triple P (Client.execute sql params) (fun _ => E) E :=
  ensures_execute (h.prepareAndExecute sql params) (fun _ => h.releaseHandle rfl)
    fun _ hc => hc

theorem query (fuel : ℕ) (sql : String) (params : List Value) :
    Triple P (Client.query fuel sql params) (fun _ => E) E :=
  ensures_query (h.prepareAndExecute sql params) (fun r => h.fetch r.cursor)
    (fun r => h.leave r.cursor) (fun _ => h.releaseHandle rfl) fuel

theorem stmtExecute {stmt : Statement} (hstmt : target = some stmt) (params : List Value) :
    Triple P (stmt.execute params) (fun _ => E) E :=
  triple_stmtExecute h.stay (h.execute _ _)
    (fun hopen => triple_post (h.executeHandle stmt hstmt hopen) fun _ => h.leave _)
    fun _ hc => hc

theorem stmtQueryWith {stmt : Statement} (hstmt : target = some stmt) (fuel : ℕ)
    (params : List Value) : Triple P (stmt.queryWith fuel params) (fun _ => E) E :=
  triple_stmtQueryWith h.stay (h.query _ _ _) (h.executeHandle stmt hstmt)
    (h.fetch stmt.cursor) (h.leave _) (h.leave _)

/-- A statement that is closed may have been closed already, or have nothing to close. -/
theorem stmtClose {stmt : Statement} (hstmt : target = some stmt) :
    Triple P stmt.close (fun stmt' client => stmt' = stmt ∧ E client ∨
      stmt.closed = false ∧ stmt'.closed = true ∧
        (stmt.queryHandle > 0 ∧ C client ∨ ¬stmt.queryHandle > 0 ∧ E client)) E := by
  refine triple_ite (fun _ => triple_pure fun c hc => Or.inl ⟨rfl, h.stay c hc⟩) fun hopen => ?_
  have hopen := Bool.eq_false_iff.mpr hopen
  refine triple_ite (fun hpos => ?_) fun hpos => triple_pure fun c hc => ?_
  · refine triple_bind (h.closeHandle stmt hstmt hopen hpos) fun _ => triple_pure fun c hc => ?_
    exact Or.inr ⟨hopen, rfl, Or.inl ⟨hpos, hc⟩⟩
  · exact Or.inr ⟨hopen, rfl, Or.inr ⟨hpos, h.stay c hc⟩⟩

end StepRules

/-- What every part of an operation keeps. -/
theorem stepRules_of_operationRules {R : Client τ → Prop} (h : OperationRules R R R R)
    (hset : ∀ client autoCommit, R client → R { client with autoCommit })
    (target : Option Statement) : StepRules target R (fun _ => R) R (fun _ => R) R where
  prepareAndExecute := h.prepareAndExecute
  executeHandle stmt _ _ := h.executeHandle stmt
  fetch := h.fetch
  release _ _ _ := h.close _
  leave _ _ hc := hc
  prepare := h.prepare
  endTran := h.endTran
  ping := h.ping
  closeHandle _ _ _ _ := h.close _
  stay _ hc := hc
  setAutoCommit := hset

/-- What an operation makes of a session with the given statements: it leaves them as they
are, adds one, or closes one. -/
def Leaves (statements : List Statement) (op : Operation) (E : Client τ → Prop)
    (N : Statement → Client τ → Prop) (C : Client τ → Prop) (s : Session τ) : Prop :=
  s.statements = statements ∧ E s.client ∨
  (∃ stmt, s.statements = statements ++ [stmt] ∧ N stmt s.client) ∨
  ∃ i stmt stmt', op = .stmtClose i ∧ statements[i]? = some stmt ∧
    s.statements = statements.set i stmt' ∧ stmt.closed = false ∧ stmt'.closed = true ∧
    (stmt.queryHandle > 0 ∧ C s.client ∨ ¬stmt.queryHandle > 0 ∧ E s.client)

omit [Socket τ] in
/-- What the client is left with, when that is the same in each case. -/
theorem Leaves.client {statements : List Statement} {op : Operation} {R : Client τ → Prop}
    {s : Session τ} (h : s.Leaves statements op R (fun _ => R) R) : R s.client := by
  rcases h with ⟨-, hR⟩ | ⟨_, -, hR⟩ | ⟨_, _, _, -, -, -, -, -, ⟨-, hR⟩ | ⟨-, hR⟩⟩ <;> exact hR

/-- The statements, and what is left of a closed client, are not touched. -/
def Keeps (statements : List Statement) (shut : Option τ) (s : Session τ) : Prop :=
  s.statements = statements ∧ s.shut = shut

section Step

variable {α : Type} {P E C : Client τ → Prop} {A : Cursor → Client τ → Prop}
  {N : Statement → Client τ → Prop} {statements : List Statement} {shut : Option τ}
  {op : Operation}

omit [Socket τ] in
/-- An operation of the client does not touch the rest of the session. -/
theorem triple_onClient_keeps {p : Prog (Client τ) Error α} {Q : α → Client τ → Prop}
    (h : Triple P p Q E) :
    Triple (fun s => P s.client ∧ s.Keeps statements shut) (onClient p)
      (fun a s => Q a s.client ∧ s.Keeps statements shut)
      fun s => E s.client ∧ s.Keeps statements shut := by
  rintro s x s' ⟨hs, hkeeps⟩ hx
  obtain ⟨⟨y, client'⟩, hy, heq⟩ := Option.map_eq_some_iff.mp hx
  obtain ⟨rfl, rfl⟩ := Prod.mk.inj heq
  have hpost := h s.client y client' hs hy
  cases y <;> exact ⟨hpost, hkeeps⟩

omit [Socket τ] in
/-- The statement there is under the number. -/
theorem triple_withStatement_keeps {i : ℕ} {f : Statement → Prog (Session τ) Error α}
    {P E : Session τ → Prop} {Q : α → Session τ → Prop}
    (h : ∀ stmt, statements[i]? = some stmt →
      Triple (fun s => P s ∧ s.Keeps statements shut) (f stmt) Q E) :
    Triple (fun s => P s ∧ s.Keeps statements shut) (withStatement i f) Q E := by
  rintro s x s' ⟨hs, hkeeps⟩ hx
  rw [withStatement] at hx
  split at hx
  · rename_i stmt hstmt
    exact h stmt (hkeeps.1 ▸ hstmt) s x s' ⟨hs, hkeeps⟩ hx
  · cases hx

omit [Socket τ] in
/-- The statements may be left as they are. -/
theorem leaves_of_keeps {s : Session τ} (h : E s.client ∧ s.Keeps statements shut) :
    s.Leaves statements op E N C ∧ s.shut = shut :=
  ⟨Or.inl ⟨h.2.1, h.1⟩, h.2.2⟩

omit [Socket τ] in
/-- An operation of the client that leaves the statements as they are. -/
theorem triple_leaves {p : Prog (Client τ) Error α} (h : Triple P p (fun _ => E) E)
    (g : α → Reply) :
    Triple (fun s => P s.client ∧ s.Keeps statements shut) (g <$> onClient p)
      (fun _ s => s.Leaves statements op E N C ∧ s.shut = shut)
      fun s => s.Leaves statements op E N C ∧ s.shut = shut :=
  triple_map (triple_mono (triple_onClient_keeps h) (fun _ hs => hs)
    (fun _ _ => leaves_of_keeps) fun _ => leaves_of_keeps)

/-- **What a step can do**, but for the closing of the client. -/
theorem triple_step (h : StepRules (op.target statements) P A E N C)
    (hop : op ≠ .close) (fuel : ℕ) :
    Triple (fun s => P s.client ∧ s.Keeps statements shut) (perform fuel op)
      (fun _ s => s.Leaves statements op E N C ∧ s.shut = shut)
      fun s => s.Leaves statements op E N C ∧ s.shut = shut := by
  cases op with
  | execute sql params => exact triple_leaves (h.execute sql params) _
  | query sql params => exact triple_leaves (h.query fuel sql params) _
  | prepare sql =>
    refine triple_bind (triple_mono (triple_onClient_keeps (h.prepare sql)) (fun _ hs => hs)
      (fun _ _ hs => hs) fun _ => leaves_of_keeps) fun stmt => ?_
    refine triple_bind
      (Q := fun _ (s : Session τ) => s.Leaves statements (.prepare sql) E N C ∧ s.shut = shut)
      (triple_modify fun s hs => ?_) fun _ => triple_pure fun _ hs => hs
    exact ⟨Or.inr (Or.inl ⟨stmt, by rw [hs.2.1], hs.1⟩), hs.2.2⟩
  | commit => exact triple_leaves (h.endTran _) _
  | rollback => exact triple_leaves (h.endTran _) _
  | ping => exact triple_leaves h.ping _
  | stmtExecute i params =>
    exact triple_withStatement_keeps fun stmt hstmt => triple_leaves (h.stmtExecute hstmt params) _
  | stmtQueryWith i params =>
    exact triple_withStatement_keeps fun stmt hstmt =>
      triple_leaves (h.stmtQueryWith hstmt fuel params) _
  | stmtClose i =>
    refine triple_withStatement_keeps fun stmt hstmt => ?_
    refine triple_bind (triple_mono (triple_onClient_keeps (h.stmtClose hstmt)) (fun _ hs => hs)
      (fun _ _ hs => hs) fun _ => leaves_of_keeps) fun stmt' => ?_
    refine triple_bind
      (Q := fun _ (s : Session τ) => s.Leaves statements (.stmtClose i) E N C ∧ s.shut = shut)
      (triple_modify fun s hs => ?_) fun _ => triple_pure fun _ hs => hs
    rcases hs with ⟨⟨rfl, hE⟩ | hclosed, hkeeps, hshut⟩
    -- a statement that was closed already is put back as it was
    · obtain ⟨hi, rfl⟩ := List.getElem?_eq_some_iff.mp hstmt
      refine ⟨Or.inl ⟨?_, hE⟩, hshut⟩
      change s.statements.set i statements[i] = statements
      rw [hkeeps, List.set_getElem_self]
    · exact ⟨Or.inr (Or.inr ⟨i, stmt, stmt', rfl, hstmt, by rw [hkeeps], hclosed⟩), hshut⟩
  | setAutoCommit autoCommit =>
    exact triple_leaves (triple_modify fun client hc => h.setAutoCommit client autoCommit hc) _
  | close => exact absurd rfl hop

end Step

/-- An operation other than `close` does not take the connection, or make one, and does not
touch what is left of a closed client. -/
theorem conn_of_perform {s s' : Session τ} {op : Operation} {fuel : ℕ} {x : Outcome Error Reply}
    (hop : op ≠ .close) (h : perform fuel op s = some (x, s')) :
    s'.client.conn.isSome = s.client.conn.isSome ∧ s'.shut = s.shut := by
  let R : Client τ → Prop := fun client => client.conn.isSome = s.client.conn.isSome
  have hpost := triple_step (stepRules_of_operationRules (operationRules_isSome _)
    (fun _ _ hc => hc) _) hop fuel s x s' ⟨rfl, rfl, rfl⟩ h
  cases x <;> exact ⟨hpost.1.client, hpost.2⟩

/-- A client that is closed stays so, whatever is called, and nothing is sent. -/
theorem closed_of_perform {s s' : Session τ} {op : Operation} {fuel : ℕ}
    {x : Outcome Error Reply} (hconn : s.client.conn = none)
    (h : perform fuel op s = some (x, s')) :
    s'.client.conn = none ∧ s'.shut = s.shut := by
  by_cases hop : op = .close
  · subst hop
    obtain ⟨-, rfl⟩ := Prod.mk.inj (Option.some.inj h)
    rw [closeClient, hconn]
    exact ⟨hconn, rfl⟩
  · obtain ⟨hsome, hshut⟩ := conn_of_perform hop h
    rw [hconn] at hsome
    exact ⟨Option.isNone_iff_eq_none.mp (by simpa using hsome), hshut⟩

/-- **Only `setAutoCommit` sets the auto-commit mode.** -/
theorem autoCommit_of_perform {s s' : Session τ} {op : Operation} {fuel : ℕ}
    {x : Outcome Error Reply} (h : perform fuel op s = some (x, s')) :
    s'.client.autoCommit = op.mode s.client.autoCommit := by
  let R : Client τ → Prop := fun client => client.autoCommit = s.client.autoCommit
  have hR : ∀ client conn conn', client.conn = some conn → R client →
      R { client with conn := some conn' } := fun _ _ _ _ hc => hc
  by_cases hop : op.Receives
  · have hpost := triple_perform (operationRules_keeps hR) hop fuel s x s' rfl h
    have hmode : op.mode s.client.autoCommit = s.client.autoCommit := by
      cases op <;> first | rfl | exact hop.elim
    rw [hmode]
    cases x <;> exact hpost
  cases op with
  | stmtClose i =>
    have htriple : Triple (fun s => R s.client) (perform fuel (.stmtClose i))
        (fun _ s => R s.client) fun s => R s.client := by
      refine triple_withStatement fun stmt => triple_bind (triple_onClient
        (triple_stmtClose (triple_closeQueryHandle_keeps hR) (fun _ hc => hc) stmt)) fun _ => ?_
      exact triple_bind (triple_modify (R := fun s => R s.client) fun _ hs => hs) fun _ =>
        triple_pure fun _ hs => hs
    have hpost := htriple s x s' rfl h
    cases x <;> exact hpost
  | setAutoCommit autoCommit =>
    obtain ⟨-, rfl⟩ := Prod.mk.inj (Option.some.inj h)
    rfl
  | close =>
    obtain ⟨-, rfl⟩ := Prod.mk.inj (Option.some.inj h)
    rw [closeClient]
    split <;> rfl
  | _ => exact absurd trivial hop

end Session

end CubridDriver
