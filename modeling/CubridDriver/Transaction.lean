import CubridDriver.Head
import CubridDriver.Stale
import CubridDriver.Lib.History

/-!
# Open transactions

A statement that is sent with auto-commit off waits for a commit or a rollback: there has
been a request of this kind on the wire, and since then no response that accepts the end of
the transaction.

`CubridDriver.Session.waiting_of_perform` says what a call can do about it. Only a call that
runs a statement, with auto-commit off, can make a statement wait; and when a commit or a
rollback returns, nothing waits.
-/

namespace CubridDriver

open Prog Connection

/-! ### Requests that wait -/

/-- A statement is sent with auto-commit off. -/
def Deferred (request : List UInt8) : Prop :=
  (∃ sql casInfo, request = writePrepareAndExecute sql false casInfo) ∨
    ∃ handle stmtType args casInfo, request = writeExecute handle stmtType args false casInfo

theorem not_deferred_framed (code : FunctionCode) (hprepare : code ≠ .prepareAndExecute)
    (hexecute : code ≠ .execute) (arguments : List UInt8) (casInfo : CasInfo) :
    ¬Deferred (framed code arguments casInfo) := by
  have hcode : functionByte (framed code arguments casInfo) = some code.toU8 :=
    functionByte_framed _ _ _
  rintro (⟨sql, casInfo', h⟩ | ⟨handle, stmtType, args, casInfo', h⟩)
  · rw [h, writePrepareAndExecute, functionByte_framed] at hcode
    exact hprepare (FunctionCode.toU8_inj.mp (Option.some.inj hcode.symm))
  · rw [h, writeExecute, functionByte_framed] at hcode
    exact hexecute (FunctionCode.toU8_inj.mp (Option.some.inj hcode.symm))

theorem not_deferred_prepareAndExecute (sql : String) (casInfo : CasInfo) :
    ¬Deferred (writePrepareAndExecute sql true casInfo) := by
  rintro (⟨sql', casInfo', h⟩ | ⟨handle, stmtType, args, casInfo', h⟩)
  · cases writePrepareAndExecute_flag h
  · have hcode := congrArg functionByte h
    rw [writePrepareAndExecute, writeExecute, functionByte_framed, functionByte_framed] at hcode
    cases FunctionCode.toU8_inj.mp (Option.some.inj hcode)

theorem not_deferred_execute (handle : Int32) (stmtType : StatementType) (args : List Value)
    (casInfo : CasInfo) : ¬Deferred (writeExecute handle stmtType args true casInfo) := by
  rintro (⟨sql', casInfo', h⟩ | ⟨handle', stmtType', args', casInfo', h⟩)
  · have hcode := congrArg functionByte h
    rw [writePrepareAndExecute, writeExecute, functionByte_framed, functionByte_framed] at hcode
    cases FunctionCode.toU8_inj.mp (Option.some.inj hcode)
  · cases writeExecute_flag h

namespace Event

/-- A statement is sent with auto-commit off. -/
def Defers : Event → Prop
  | sent request => Deferred request
  | _ => False

/-- The end of a transaction is accepted. -/
def Settles : Event → Prop
  | received _ request bytes =>
      functionByte request = some FunctionCode.endTran.toU8 ∧
        ∃ (resp : Bytes) (casInfo : CasInfo), resp.1 = bytes.map Prod.snd ∧
          parseSimpleResponse resp = .ok casInfo
  | _ => False

end Event

/-- A statement that has been sent with auto-commit off waits for a commit or a rollback. -/
def Waiting (trace : List Event) : Prop := History.Since Event.Defers Event.Settles trace

section Waiting

variable {trace : List Event}

/-- What happens makes nothing wait. -/
theorem Waiting.of_concat {e : Event} (he : ¬e.Defers) (h : Waiting (trace ++ [e])) :
    Waiting trace := ((History.since_concat.mp h).resolve_left he).1

theorem Waiting.of_sent {data : List UInt8} (hdata : ¬Deferred data)
    (h : Waiting (trace ++ [.sent data])) : Waiting trace :=
  Waiting.of_concat (e := .sent data) hdata h

theorem Waiting.of_received {number : ℕ} {request : List UInt8} {bytes : List TaggedByte}
    (h : Waiting (trace ++ [.received number request bytes])) : Waiting trace :=
  Waiting.of_concat (e := .received number request bytes) not_false h

theorem Waiting.of_failed {left : List TaggedByte} (h : Waiting (trace ++ [.failed left])) :
    Waiting trace := Waiting.of_concat (e := .failed left) not_false h

theorem not_waiting_of_settles {e : Event} (he : ¬e.Defers) (hsettles : e.Settles) :
    ¬Waiting (trace ++ [e]) := fun h =>
  ((History.since_concat.mp h).resolve_left he).2 hsettles

end Waiting

/-! ### Rules for the parts of an operation -/

/-- If a statement waits, then `X`. -/
def WaitsOnly (X : Prop) : Client Wire → Prop :=
  Client.Over fun conn => Waiting conn.stream.trace → X

section Rules

variable {X : Prop}

theorem triple_sendFramed_waits {data : List UInt8} (hdata : ¬Deferred data)
    {P : Connection Wire → Prop} (hP : ∀ conn, P conn → Waiting conn.stream.trace → X) :
    Triple P (sendFramed data) (fun _ conn => Waiting conn.stream.trace → X)
      fun conn => Waiting conn.stream.trace → X :=
  Wire.triple_sendFramed (R := fun w => Waiting w.trace → X) (S := fun w => Waiting w.trace → X)
    hP (fun _ hw hwaiting => hw (Waiting.of_sent hdata hwaiting))
    fun _ _ hw htrace _ => htrace ▸ hw

theorem triple_recvFramed_waits :
    Triple (fun conn : Connection Wire => Waiting conn.stream.trace → X) recvFramed
      (fun _ conn => Waiting conn.stream.trace → X) fun conn => Waiting conn.stream.trace → X := by
  refine Wire.triple_recvFramed (R := fun w => Waiting w.trace → X)
    (E := fun w => Waiting w.trace → X) (T := fun _ w => Waiting w.trace → X) ?_ ?_
  · intro w resp hw _ _ _ hwaiting
    exact hw (Waiting.of_received (Waiting.of_received hwaiting))
  · rintro w w' k hw (rfl | rfl) hwaiting
    · exact hw (Waiting.of_failed hwaiting)
    · exact hw (Waiting.of_received (Waiting.of_failed hwaiting))

/-- **The rule of the exchange**, for a request that does not wait. -/
theorem triple_exchange_waits {α : Type} {request : CasInfo → Outcome Error (List UInt8)}
    {parse : Bytes → Outcome ProtocolError (α × CasInfo)}
    (hrequest : ∀ casInfo data, request casInfo = .ok data → ¬Deferred data) :
    Triple (WaitsOnly X) (Client.onConn (exchange request parse)) (fun _ => WaitsOnly X)
      (WaitsOnly X) :=
  triple_onConn (triple_exchange (S := fun _ conn => Waiting conn.stream.trace → X)
    (T := fun _ conn => Waiting conn.stream.trace → X)
    (fun _ _ hdata => triple_sendFramed_waits (hrequest _ _ hdata) fun _ hc => hc.1)
    (fun _ => triple_recvFramed_waits) (fun _ hc => hc) (fun _ _ hc => hc)
    fun _ _ _ _ _ hc => hc)

/-- The exchange, for a request that can always be built. -/
theorem triple_framed_waits {α : Type} (code : FunctionCode) (hprepare : code ≠ .prepareAndExecute)
    (hexecute : code ≠ .execute) {arguments : List UInt8}
    {parse : Bytes → Outcome ProtocolError (α × CasInfo)} :
    Triple (WaitsOnly X)
      (Client.onConn (exchange (fun casInfo => .ok (framed code arguments casInfo)) parse))
      (fun _ => WaitsOnly X) (WaitsOnly X) :=
  triple_exchange_waits fun casInfo data h => by
    rw [← Outcome.ok.inj h]
    exact not_deferred_framed code hprepare hexecute _ _

theorem triple_closeQueryHandle_waits (handle : Int32) :
    Triple (WaitsOnly X) (Client.closeQueryHandle handle) (fun _ => WaitsOnly X) (WaitsOnly X) :=
  triple_closeQueryHandle
    (fun _ => triple_sendFramed_waits (not_deferred_framed .closeReqHandle nofun nofun _ _)
      fun _ hc => hc.1)
    triple_recvFramed_waits

theorem triple_prepare_waits (sql : String) :
    Triple (WaitsOnly X) (Client.prepare sql) (fun _ => WaitsOnly X) (WaitsOnly X) :=
  ensures_get_bind fun _ _ => triple_bind (triple_framed_waits .prepare nofun nofun)
    fun _ => triple_pure fun _ hc => hc

theorem triple_endTran_waits (tranType : TransactionType) :
    Triple (WaitsOnly X) (Client.endTran tranType) (fun _ => WaitsOnly X) (WaitsOnly X) :=
  triple_framed_waits .endTran nofun nofun

theorem triple_ping_waits :
    Triple (WaitsOnly X) Client.ping (fun _ => WaitsOnly X) (WaitsOnly X) :=
  ensures_get_bind fun _ _ => triple_framed_waits .getDbVersion nofun nofun

/-- **A call with auto-commit on**, by its parts. -/
theorem stepRules_waits (target : Option Statement) :
    Session.StepRules target (fun client => client.autoCommit = true ∧ WaitsOnly X client)
      (fun _ => WaitsOnly X) (WaitsOnly X) (fun _ => WaitsOnly X) (WaitsOnly X) where
  prepareAndExecute sql params := by
    refine ensures_get_bind fun client ⟨hauto, _⟩ => ?_
    refine triple_pre (triple_exchange_waits fun casInfo data h => ?_) fun _ hc => hc.2
    rw [← Outcome.ok.inj h, hauto]
    exact not_deferred_prepareAndExecute _ _
  executeHandle stmt _ _ := by
    refine ensures_get_bind fun client ⟨hauto, _⟩ => ?_
    refine triple_pre (triple_exchange_waits fun casInfo data h => ?_) fun _ hc => hc.2
    rw [← Outcome.ok.inj h, hauto]
    exact not_deferred_execute _ _ _ _
  fetch cursor fetched := by
    refine triple_exchange_waits fun casInfo data h => ?_
    obtain ⟨start, -, hdata⟩ := Outcome.bind_eq_ok.mp h
    rw [← Outcome.ok.inj hdata]
    exact not_deferred_framed .fetch nofun nofun _ _
  release _ _ _ := triple_closeQueryHandle_waits _
  leave _ _ hc := hc
  prepare sql := triple_pre (triple_prepare_waits sql) fun _ hc => hc.2
  endTran tranType := triple_pre (triple_endTran_waits tranType) fun _ hc => hc.2
  ping := triple_pre triple_ping_waits fun _ hc => hc.2
  closeHandle _ _ _ _ := triple_pre (triple_closeQueryHandle_waits _) fun _ hc => hc.2
  stay _ hc := hc.2
  setAutoCommit _ _ hc := hc.2

end Rules

/-- **The end of a transaction that is accepted** leaves nothing waiting. -/
theorem triple_endTran_settles (tranType : TransactionType) :
    Triple (fun _ => True) (Client.endTran tranType)
      (fun _ => Client.Over fun conn : Connection Wire => ¬Waiting conn.stream.trace)
      fun _ => True := by
  refine triple_mono (R := Client.Over fun _ => True) (F := Client.Over fun _ => True)
    (triple_onConn (triple_exchange
      (S := fun data (conn : Connection Wire) =>
        functionByte data = some FunctionCode.endTran.toU8 ∧ conn.stream.lastRequest = data)
      (T := fun resp (conn : Connection Wire) =>
        (∃ casInfo, parseSimpleResponse resp = .ok casInfo) → ¬Waiting conn.stream.trace)
      ?_ ?_ (fun _ _ => trivial) (fun _ _ _ => trivial) ?_))
    (fun _ _ _ _ => trivial) (fun _ _ hc => hc) fun _ _ => trivial
  · intro conn data hdata
    rw [← Outcome.ok.inj hdata]
    refine triple_mono (Wire.triple_sendFramed (R := fun _ => True) (E := fun _ => True)
      (P := fun _ => True) (S := fun w => w.lastRequest = writeEndTran tranType conn.casInfo)
      (fun _ _ => trivial) (fun w _ => Wire.lastRequest_deliver w _) fun _ _ _ _ _ => trivial)
      (fun _ _ => trivial) (fun _ _ hc => ⟨functionByte_framed _ _ _, hc⟩) fun _ _ => trivial
  · intro data
    refine ensures_assume fun hcode => ?_
    refine Wire.triple_recvFramed (R := fun w => w.lastRequest = data) (E := fun _ => True)
      (T := fun resp w => (∃ casInfo, parseSimpleResponse resp = .ok casInfo) →
        ¬Waiting w.trace) ?_ fun _ _ _ _ _ => trivial
    rintro w resp hlast - - hresp ⟨casInfo, hparse⟩
    refine not_waiting_of_settles (e := .received _ _ _) not_false
      ⟨?_, resp, casInfo, hresp, hparse⟩
    rw [Wire.lastRequest_take, hlast, hcode]
  · intro resp conn a casInfo hparse hsettles
    obtain ⟨token, htoken, -⟩ := Outcome.bind_eq_ok.mp hparse
    exact hsettles ⟨token, htoken⟩

/-! ### Sessions -/

/-- The operations that run a statement. -/
def Operation.Runs : Operation → Prop
  | execute .. | query .. | stmtExecute .. | stmtQueryWith .. => True
  | _ => False

/-- The operations that end a transaction. -/
def Operation.Ends : Operation → Prop
  | commit | rollback => True
  | _ => False

namespace Session

variable {s s' : Session Wire} {op : Operation} {fuel : ℕ} {x : Outcome Error Reply} {X : Prop}

/-- An operation that runs no statement. -/
theorem triple_perform_waits (hop : ¬op.Runs) (fuel : ℕ) :
    Triple (fun s => WaitsOnly X s.client) (perform fuel op) (fun _ s => WaitsOnly X s.client)
      fun s => WaitsOnly X s.client := by
  by_cases hreceives : op.Receives
  · cases op with
    | prepare sql =>
      refine triple_bind (triple_onClient (triple_prepare_waits sql)) fun stmt => ?_
      exact triple_bind (triple_modify (R := fun s => WaitsOnly X s.client) fun _ hs => hs)
        fun _ => triple_pure fun _ hs => hs
    | commit => exact triple_map (triple_onClient (triple_endTran_waits _))
    | rollback => exact triple_map (triple_onClient (triple_endTran_waits _))
    | ping => exact triple_map (triple_onClient triple_ping_waits)
    | stmtClose i => exact hreceives.elim
    | setAutoCommit autoCommit => exact hreceives.elim
    | close => exact hreceives.elim
    | _ => exact absurd trivial hop
  · exact triple_perform_other triple_closeQueryHandle_waits (fun _ hc => hc) hreceives fuel

/-- When a commit or a rollback returns, nothing waits. -/
theorem not_waiting_of_ends {reply : Reply} (hop : op.Ends)
    (h : perform fuel op s = some (.ok reply, s')) : ¬Waiting s'.trace := by
  have hend : ∀ {client client' : Client Wire} {tranType a},
      Client.endTran tranType client = some (.ok a, client') →
      ∃ conn, client'.conn = some conn ∧ ¬Waiting conn.stream.trace := by
    intro client client' tranType a hx
    obtain ⟨conn, hconn⟩ := conn_of_onConn hx
    exact ⟨conn, hconn, triple_endTran_settles tranType client _ client' trivial hx conn hconn⟩
  have hcall : ∀ {tranType}, ((fun _ => Reply.done) <$> onClient (Client.endTran tranType)) s =
      some (.ok reply, s') → ¬Waiting s'.trace := by
    intro tranType hx
    obtain ⟨a, t, hfirst, hret⟩ := bind_eq_ok.mp hx
    obtain ⟨-, rfl⟩ := Prod.mk.inj (Option.some.inj hret)
    obtain ⟨⟨y, client'⟩, hy, heq⟩ := Option.map_eq_some_iff.mp hfirst
    obtain ⟨rfl, rfl⟩ := Prod.mk.inj heq
    obtain ⟨conn, hconn, hnone⟩ := hend hy
    rwa [trace_of_conn (s := { s with client := client' }) hconn]
  cases op with
  | commit => exact hcall h
  | rollback => exact hcall h
  | _ => exact hop.elim

/-- **What makes a statement wait**: a call that runs a statement, with auto-commit off. Any
other call leaves it waiting at most, and a commit or a rollback that returns does not. -/
theorem waiting_of_perform (h : perform fuel op s = some (x, s')) (hwaiting : Waiting s'.trace) :
    op.Runs ∧ s.client.autoCommit = false ∨
      Waiting s.trace ∧ ¬(op.Ends ∧ ∃ reply, x = .ok reply) := by
  rw [or_iff_not_imp_left]
  intro hrun
  refine ⟨?_, ?_⟩
  · by_cases hop : op = .close
    · subst hop
      obtain ⟨-, rfl⟩ := Prod.mk.inj (Option.some.inj h)
      rcases trace_closeClient s with hsame | ⟨conn, -, hsent⟩
      · exact hsame ▸ hwaiting
      · rw [hsent] at hwaiting
        exact hwaiting.of_sent (not_deferred_framed .conClose nofun nofun _ _)
    cases hconn : s.client.conn with
    | none => exact (trace_of_closed hconn h).2 ▸ hwaiting
    | some conn =>
      have hstart : WaitsOnly (Waiting s.trace) s.client := fun c hc => by
        rw [trace_of_conn hc]
        exact id
      have hwaits : WaitsOnly (Waiting s.trace) s'.client := by
        by_cases hruns : op.Runs
        · have hauto : s.client.autoCommit = true := by
            simpa using fun hoff => hrun ⟨hruns, hoff⟩
          have hpost := triple_step (stepRules_waits _) hop fuel s x s'
            ⟨⟨hauto, hstart⟩, rfl, rfl⟩ h
          cases x <;> exact hpost.1.client
        · have hpost := triple_perform_waits hruns fuel s x s' hstart h
          cases x <;> exact hpost
      have hsome := (conn_of_perform hop h).1
      rw [hconn] at hsome
      obtain ⟨conn', hconn'⟩ := Option.isSome_iff_exists.mp hsome
      exact hwaits conn' hconn' (trace_of_conn hconn' ▸ hwaiting)
  · rintro ⟨hends, reply, rfl⟩
    exact not_waiting_of_ends hends h hwaiting

end Session

end CubridDriver
