import CubridDriver.Encode
import CubridDriver.Site

/-!
# Sessions with a server

What an application sees of a server does not depend on the wire: a session over a socket and
one that calls the database of the server directly have the same outcomes, operation by
operation, and both leave the database in the same state
(`CubridDriver.Session.outcomes_eq`). This holds of every server that is behind a socket, and
so of every site that is connected to by its name (`CubridDriver.Session.connect_outcomes_eq`).

It is asked of the application that its texts fit a request.
-/

namespace CubridDriver

open Prog

/-! ### Sessions that agree -/

/-- The texts of an operation fit a request. -/
def Operation.Fits (statements : List Statement) : Operation → Prop
  | execute sql params | query sql params => TextFits sql params
  | prepare sql => (Utf8.encode sql).length < 2 ^ 31 - 2
  | stmtExecute i params | stmtQueryWith i params =>
      params ≠ [] → ∀ stmt, statements[i]? = some stmt → TextFits stmt.sql params
  | _ => True

variable {δ τ : Type} {S : Server δ} {At Gone : δ → τ → Prop}

/-- What a closed client has left is a server in that state. -/
def Left (Gone : δ → τ → Prop) (shut : Option τ) (db : δ) : Prop :=
  ∃ stream, shut = some stream ∧ Gone db stream

/-- A session agrees with one that calls the database directly. -/
structure Session.Agrees (S : Server δ) (At Gone : δ → τ → Prop) (s : Session τ)
    (t : DirectSession δ) : Prop where
  statements : s.statements = t.statements
  distinct : Distinct t.statements
  client : CubridDriver.Agrees S At (Knows S t.client.connected (Left Gone s.shut) t.statements)
    s.client t.client

/-- While the clients are at work, the rest of the sessions is as it was. -/
def Session.During (R : Client τ → Direct δ → Prop) (statements : List Statement)
    (shut : Option τ) (s : Session τ) (t : DirectSession δ) : Prop :=
  R s.client t.client ∧ s.Keeps statements shut ∧ t.statements = statements

namespace Session

section Lift

variable {α : Type} {R E : Client τ → Direct δ → Prop} {statements : List Statement}
  {shut : Option τ} {isOpen : Bool} {s : Session τ} {t : DirectSession δ}

/-- What the clients do alike, the sessions do. -/
theorem relates_onClient {p : Prog (Client τ) Error α} {q : Prog (Direct δ) Error α}
    {T : α → Client τ → Direct δ → Prop} (h : Relates R p q T E) :
    Relates (During R statements shut) (onClient p) (DirectSession.onClient q)
      (fun a => During (T a) statements shut) (During E statements shut) := by
  rintro s t ⟨hst, hkeeps, hstatements⟩
  have hends := h s.client t.client hst
  rw [onClient, DirectSession.onClient]
  generalize p s.client = x at hends ⊢
  generalize q t.client = y at hends ⊢
  cases hends with
  | ok h => exact .ok ⟨h, hkeeps, hstatements⟩
  | err h => exact .err ⟨h, hkeeps, hstatements⟩
  | panic h => exact .panic ⟨h, hkeeps, hstatements⟩
  | never => exact .never

/-- Both sessions have the same statement under a number, or neither has one. -/
theorem relates_withStatement {i : ℕ} {f : Statement → Prog (Session τ) Error α}
    {g : Statement → Prog (DirectSession δ) Error α} {T : α → Session τ → DirectSession δ → Prop}
    {F : Session τ → DirectSession δ → Prop}
    (h : ∀ stmt, statements[i]? = some stmt →
      Relates (During R statements shut) (f stmt) (g stmt) T F) :
    Relates (During R statements shut) (withStatement i f) (DirectSession.withStatement i g)
      T F := by
  intro s t hst
  rw [withStatement, DirectSession.withStatement, hst.2.1.1, hst.2.2]
  cases hstmt : statements[i]? with
  | none => exact .never
  | some stmt => exact h stmt hstmt s t hst

/-- When the clients agree, and the statements are the same, the sessions agree. -/
theorem agrees_of_client (hs : s.statements = statements) (hshut : s.shut = shut)
    (ht : t.statements = statements) (hdistinct : Distinct statements)
    (hclient : CubridDriver.Agrees S At (Knows S isOpen (Left Gone shut) statements) s.client
      t.client) : s.Agrees S At Gone t := by
  obtain rfl := ht
  obtain rfl := hshut
  obtain rfl := hclient.holds.connected
  exact ⟨hs, hdistinct, hclient⟩

/-- When the clients are done, the sessions agree. -/
theorem During.agrees (hdistinct : Distinct statements)
    (h : During (CubridDriver.Agrees S At (Knows S isOpen (Left Gone shut) statements)) statements
      shut s t) : s.Agrees S At Gone t :=
  agrees_of_client h.2.1.1 h.2.1.2 h.2.2 hdistinct h.1

/-- An operation of the clients that leaves the statements as they are. -/
theorem relates_reply {p : Prog (Client τ) Error α} {q : Prog (Direct δ) Error α}
    (hdistinct : Distinct statements)
    (h : Relates (CubridDriver.Agrees S At (Knows S isOpen (Left Gone shut) statements)) p q
      (fun _ => CubridDriver.Agrees S At (Knows S isOpen (Left Gone shut) statements))
      (CubridDriver.Agrees S At (Knows S isOpen (Left Gone shut) statements))) (g : α → Reply) :
    Relates (During (CubridDriver.Agrees S At (Knows S isOpen (Left Gone shut) statements))
      statements shut) (g <$> onClient p) (g <$> DirectSession.onClient q)
      (fun _ => Session.Agrees S At Gone) (Session.Agrees S At Gone) :=
  relates_mono (relates_map (relates_onClient h)) (fun _ _ h => h)
    (fun _ _ _ h => h.agrees hdistinct) fun _ _ h => h.agrees hdistinct

end Lift

variable [Socket τ] (hbehind : Behind S At Gone)
include hbehind

/-- The last request is understood, and the server is left. -/
theorem agrees_closeClient {s : Session τ} {t : DirectSession δ} (h : s.Agrees S At Gone t) :
    s.closeClient.Agrees S At Gone { t with client := S.closeClient t.client } := by
  obtain ⟨hstatements, hdistinct, hauto, hproto, hconn, hknows⟩ := h
  rcases hclient : s.client.conn with - | conn
  · rw [hclient] at hconn
    have hs : s.closeClient = s := by rw [closeClient, hclient]
    have ht : S.closeClient t.client = t.client := by
      rw [Database.closeClient, if_neg (by rw [hconn]; exact Bool.false_ne_true)]
    rw [hs, ht]
    exact ⟨hstatements, hdistinct, hauto, hproto, by rw [hclient]; exact hconn, hknows⟩
  · rw [hclient] at hconn
    obtain ⟨hopen, hat⟩ := hconn
    have hread : readRequest (writeConClose conn.casInfo) = some (conn.casInfo, .conClose) :=
      @readRequest_framed .conClose trivial conn.casInfo
    have hgone := hbehind.conClose hat hread
    rw [closeClient, hclient, Database.closeClient, if_pos hopen]
    exact ⟨hstatements, hdistinct, hauto, hproto, rfl, rfl, (fun h => absurd h Bool.false_ne_true),
      fun _ => ⟨_, rfl, hgone⟩⟩

/-- **An operation over the wire** does what it does without one. -/
theorem relates_perform (fuel : ℕ) (op : Operation) :
    Relates (fun s t => s.Agrees S At Gone t ∧ op.Fits t.statements) (perform fuel op)
      (DirectSession.perform S.toDatabase fuel op) (fun _ => Session.Agrees S At Gone)
      (Session.Agrees S At Gone) := by
  rintro s t ⟨h, hfits⟩
  have hdistinct := h.distinct
  have hduring : During (CubridDriver.Agrees S At
      (Knows S t.client.connected (Left Gone s.shut) t.statements)) t.statements s.shut s t :=
    ⟨h.client, ⟨h.statements, rfl⟩, rfl⟩
  cases op with
  | execute sql params =>
    exact relates_reply hdistinct (relates_execute hbehind hfits) _ s t hduring
  | query sql params =>
    exact relates_reply hdistinct (relates_query hbehind fuel hfits) _ s t hduring
  | prepare sql =>
    refine relates_bind (relates_mono (relates_onClient (relates_prepare hbehind hfits))
      (fun _ _ h => h) (fun _ _ _ h => h) fun _ _ h => h.agrees hdistinct) (fun stmt => ?_)
      s t hduring
    refine relates_bind (S := fun _ => Session.Agrees S At Gone) (relates_modify ?_)
      fun _ => relates_pure fun _ _ h => h
    -- the new statement has a handle of its own
    rintro s₁ t₁ ⟨hclient, ⟨hs₁, hshut⟩, ht₁⟩
    have hne := hclient.holds.2
    have hs : s₁.statements ++ [stmt] = t.statements ++ [stmt] := by rw [hs₁]
    have ht : t₁.statements ++ [stmt] = t.statements ++ [stmt] := by rw [ht₁]
    exact agrees_of_client hs hshut ht (hdistinct.append_singleton hne)
      (hclient.imp fun _ hd => hd.1)
  | commit => exact relates_reply hdistinct (relates_endTran hbehind _) _ s t hduring
  | rollback => exact relates_reply hdistinct (relates_endTran hbehind _) _ s t hduring
  | ping => exact relates_reply hdistinct (relates_ping hbehind) _ s t hduring
  | stmtExecute i params =>
    refine relates_withStatement (fun stmt hstmt => ?_) s t hduring
    exact relates_reply hdistinct (relates_stmtExecute hbehind (List.mem_of_getElem? hstmt)
      fun hparams => hfits hparams stmt hstmt) _
  | stmtQueryWith i params =>
    refine relates_withStatement (fun stmt hstmt => ?_) s t hduring
    exact relates_reply hdistinct (relates_stmtQueryWith hbehind fuel (List.mem_of_getElem? hstmt)
      fun hparams => hfits hparams stmt hstmt) _
  | stmtClose i =>
    refine relates_withStatement (fun stmt hstmt => ?_) s t hduring
    refine relates_bind (relates_mono (relates_onClient (relates_stmtClose hbehind hstmt hdistinct))
      (fun _ _ h => h) (fun _ _ _ h => h) fun _ _ h => h.agrees hdistinct) fun stmt' => ?_
    refine relates_bind (S := fun _ => Session.Agrees S At Gone) (relates_modify ?_)
      fun _ => relates_pure fun _ _ h => h
    rintro s₁ t₁ ⟨hclient, ⟨hs₁, hshut⟩, ht₁⟩
    have hs : s₁.statements.set i stmt' = t.statements.set i stmt' := by rw [hs₁]
    have ht : t₁.statements.set i stmt' = t.statements.set i stmt' := by rw [ht₁]
    exact agrees_of_client hs hshut ht (hdistinct.set hstmt hclient.holds.2)
      (hclient.imp fun _ hd => hd.1)
  | setAutoCommit autoCommit =>
    refine relates_reply hdistinct (relates_modify fun client d h => ?_) _ s t hduring
    exact ⟨rfl, h.protoVersion, h.conn, h.holds.connected, h.holds.info, h.holds.gone⟩
  | close => exact .ok (agrees_closeClient hbehind h)

end Session

/-! ### Sessions from their start -/

namespace Session

/-- A new session agrees with a new one. -/
theorem agrees_start {db : δ} {stream : τ} (hat : At db stream) (casInfo : CasInfo)
    (autoCommit : Bool) :
    (start ⟨stream, casInfo⟩ autoCommit S.protoVersion).Agrees S At Gone
      (DirectSession.start db autoCommit) :=
  ⟨rfl, List.Pairwise.nil, rfl, rfl, ⟨rfl, hat⟩, rfl, nofun, nofun⟩

/-- **The wire is transparent.** A session with a server that is behind a socket has the
outcomes of one that calls the database of the server directly, one by one, whatever is called
and whatever the server answers: the same values and the same errors. In the end the statements
are the same, and the database is in the same state. -/
theorem outcomes_eq [Socket τ] (hbehind : Behind S At Gone) {db : δ} {stream : τ}
    (hat : At db stream) (casInfo : CasInfo) (autoCommit : Bool) {calls : List (ℕ × Operation)}
    (hlegal : Legal (fun call t => call.2.Fits t.statements)
      (fun call => DirectSession.perform S.toDatabase call.1 call.2) calls
      (DirectSession.start db autoCommit)) :
    Option.Rel (fun x y => x.1 = y.1 ∧ x.2.Agrees S At Gone y.2)
      (each (fun call => perform call.1 call.2) calls
        (start ⟨stream, casInfo⟩ autoCommit S.protoVersion))
      (each (fun call => DirectSession.perform S.toDatabase call.1 call.2) calls
        (DirectSession.start db autoCommit)) :=
  each_relates (fun call : ℕ × Operation => relates_perform hbehind call.1 call.2)
    (agrees_start hat casInfo autoCommit) hlegal

/-- The state of the server that is or was behind the socket. -/
def served {site : Site S} (s : Session (Visit site)) : Option δ :=
  ((s.client.conn.map Connection.stream).or s.shut).map Visit.db

theorem Agrees.served_eq {site : Site S} {s : Session (Visit site)} {t : DirectSession δ}
    (h : s.Agrees S (fun db v => v = ⟨.serving, db, []⟩) (fun db v => v.db = db) t) :
    s.served = some t.client.db := by
  have hconn := h.client.conn
  rw [served]
  rcases hclient : s.client.conn with - | conn
  · rw [hclient] at hconn
    obtain ⟨v, hshut, hdb⟩ := h.client.holds.gone hconn
    rw [hshut, ← hdb]
    rfl
  · rw [hclient] at hconn
    rw [Option.map_some, Option.some_or, Option.map_some, hconn.2]

/-- **A data source is what its name says.** A client that connects to a site by a name with the
address of the site and a good account is let in, and then it has the outcomes of a client that
calls the database of the server directly, in the auto-commit mode that the name says. -/
theorem connect_outcomes_eq (site : Site S) {text : String} {dsn : Dsn}
    (hparse : Dsn.parse text = .ok dsn) (hhost : dsn.host = site.host)
    (hport : dsn.port = site.port)
    (hnul : ∀ s ∈ [dsn.database, dsn.user, dsn.password], '\x00' ∉ s.toList)
    (hadmits : site.admits dsn.account = true) (db : δ) {calls : List (ℕ × Operation)}
    (hlegal : Legal (fun call t => call.2.Fits t.statements)
      (fun call => DirectSession.perform S.toDatabase call.1 call.2) calls
      (DirectSession.start db dsn.autoCommit)) :
    ∃ client conn, Client.connect text (⟨⟨.away, db, []⟩, (0, 0, 0, 0)⟩ : Connection (Visit site)) =
        some (.ok client, conn) ∧
      Option.Rel (fun x y => x.1 = y.1 ∧ x.2.statements = y.2.statements ∧
          x.2.served = some y.2.client.db)
        (each (fun call => perform call.1 call.2) calls ⟨client, [], none⟩)
        (each (fun call => DirectSession.perform S.toDatabase call.1 call.2) calls
          (DirectSession.start db dsn.autoCommit)) := by
  have hconnect := @Visit.connectWithDsn_ok _ S site dsn hhost hport db (0, 0, 0, 0) hnul hadmits
  have hrel := outcomes_eq (Visit.behind site) rfl site.casInfo dsn.autoCommit hlegal
  rw [← Client.connect_eq hparse] at hconnect
  exact ⟨_, _, hconnect, rel_imp hrel fun x y h => ⟨h.1, h.2.statements, h.2.served_eq⟩⟩

end Session

/-! ### A small server -/

namespace OneHandle

open PacketWriter

theorem length_nil_le : ([] : List ColumnMetaData).length * columnSize ≤ isizeMax := Nat.zero_le _

/-- No columns. -/
def noColumns : Columns := ⟨[], length_nil_le⟩

/-- One row has been inserted, under the handle one. -/
def inserted : PrepareAndExecuteResult where
  queryHandle := 1
  statementType := .insert
  bindCount := 0
  columns := noColumns
  totalTupleCount := 1
  resultInfos := [⟨.insert, 1, List.replicate SIZE_OID 0⟩]
  tupleCount := 0
  rows := []

/-- A database with one handle, which is in use or not. It inserts a row whatever the text. -/
def call (inUse : Bool) : (c : Call) → Except (Int32 × String) c.Answer × Bool
  | .prepareAndExecute .. => if inUse then (.error (-1, ""), true) else (.ok inserted, true)
  | .closeReqHandle handle => (.ok (), inUse && handle != 1)
  | .getDbVersion _ => (.ok "11.3", inUse)
  | .endTran _ | .conClose => (.ok (), inUse)
  | .prepare .. | .execute .. | .fetch .. | .getLastInsertId => (.error (-2, ""), inUse)

/-- The handle, if it is in use. -/
def info (inUse : Bool) (handle : Int32) : Option HandleInfo :=
  if inUse && handle == 1 then some ⟨.insert, noColumns⟩ else none

/-- How an answer is written. -/
def bodyOf : (c : Call) → Except (Int32 × String) c.Answer → List UInt8
  | _, .error (code, _) => writeInt (-1) ++ (writeInt code ++ [0])
  | .prepareAndExecute .., .ok _ => (encodePrepareAndExecute 7 (0, 0, 0, 0) inserted).drop 4
  | .getDbVersion _, .ok _ => writeInt 0 ++ [49, 49, 46, 51, 0]
  | _, .ok _ => writeInt 0

/-- A body is short. -/
theorem length_bodyOf (c : Call) (x : Except (Int32 × String) c.Answer) :
    (bodyOf c x).length < 2 ^ 32 := by
  rcases x with ⟨code, message⟩ | a
  · cases c <;> simp [bodyOf, length_writeInt]
  · have hinserted : (bodyOf (.prepareAndExecute "" false) (.ok inserted)).length < 2 ^ 32 := by
      decide
    cases c <;> first | exact hinserted | simp [bodyOf, length_writeInt]

/-- The frame of an answer. -/
def frameOf (c : Call) (x : Except (Int32 × String) c.Answer) : Frame :=
  ⟨(0, 0, 0, 0), bodyOf c x, length_bodyOf c x⟩

theorem inserted_encodable : inserted.Encodable := by
  refine ⟨by decide, by decide, nofun, by decide, fun info hinfo => ?_, Or.inr rfl, by decide,
    nofun, rfl⟩
  obtain rfl := List.mem_singleton.mp hinfo
  rfl

theorem info_call {c : Call} {inUse : Bool} {handle : Int32} {i : HandleInfo}
    (hinfo : info inUse handle = some i) (hclose : c ≠ .closeReqHandle handle) :
    info (call inUse c).2 handle = some i := by
  cases inUse with
  | false => cases hinfo
  | true =>
    obtain ⟨hone, -⟩ := Option.ite_none_right_eq_some.mp hinfo
    obtain rfl : handle = 1 := eq_of_beq hone
    cases c with
    | closeReqHandle closed =>
      have hne : (closed != 1) = true := bne_iff_ne.mpr fun h => hclose (by rw [h])
      change info (true && closed != 1) 1 = some i
      rw [hne]
      exact hinfo
    | _ => exact hinfo

theorem frameOf_mem {c : Call} {inUse inUse' : Bool} {a : c.Answer}
    (h : call inUse c = (.ok a, inUse')) (hlast : c ≠ .conClose) :
    (frameOf c (.ok a)).data ∈ c.format 7 (info inUse) (0, 0, 0, 0) a := by
  have hdone : (frameOf (.endTran .commit) (.ok ())).data ∈ simpleFormat (0, 0, 0, 0) :=
    ⟨0, by decide, rfl⟩
  cases c with
  | prepareAndExecute sql autoCommit =>
    cases inUse <;> cases h
    exact encodePrepareAndExecute_mem inserted_encodable 7 (0, 0, 0, 0)
  | getDbVersion autoCommit =>
    cases h
    have hnul : NoTrailingNul "11.3" := by
      rw [NoTrailingNul]
      decide
    refine ⟨0, Language.mem_mul.mpr ⟨[0, 0, 0, 0, 0, 0, 0, 0], ⟨by decide, rfl⟩, ?_⟩⟩
    exact ⟨[49, 49, 46, 51, 0], ⟨hnul, 1, by decide⟩, rfl⟩
  | closeReqHandle handle => exact hdone
  | endTran tranType => exact hdone
  | conClose => exact absurd rfl hlast
  | _ => cases h

/-- The server. -/
def server : Server Bool where
  call c inUse := call inUse c
  info := info
  info_prepareAndExecute := by
    intro sql autoCommit inUse r inUse' h
    cases inUse <;> cases h
    exact ⟨rfl, rfl⟩
  info_prepare := by
    intro sql autoCommit inUse r inUse' h
    cases h
  info_call hinfo hclose _ := info_call hinfo hclose
  protoVersion := 7
  reply c inUse := frameOf c (call inUse c).1
  reply_ok h hlast := ⟨(0, 0, 0, 0), by rw [h]; exact frameOf_mem h hlast⟩
  reply_error {c inUse code message inUse'} h := by
    have hmessage : message = "" := by
      cases c <;> cases inUse <;> cases h <;> rfl
    refine ⟨(0, 0, 0, 0), -1, [0], ?_, by decide, ?_⟩
    · rw [hmessage]
      exact ⟨textEncodable_empty.noTrailingNul, 1, rfl⟩
    · rw [h]
      cases c <;> rfl

/-- A site with this server, where an account has been made for `dba`. -/
def site : Site server where
  host := "localhost"
  port := 33000
  casPort := 33001
  casPort_ne := by decide
  admits account := account = ["demodb", "dba", ""].map Utf8.encode
  casInfo := (0, 0, 0, 0)
  sessionId := 0
  welcome := ⟨(0, 0, 0, 0), writeInt 0 ++ ([0, 0, 0, 0, 7] ++ List.replicate 11 0 ++ writeInt 0),
    by decide⟩
  welcome_mem := by
    have hinfo : [0, 0, 0, 0, 7] ++ List.replicate 11 0 ∈ brokerInfoFormat 7 := ⟨rfl, 7, rfl, rfl⟩
    refine ⟨0, Language.mem_mul.mpr ⟨[0, 0, 0, 0, 0, 0, 0, 0], ⟨by decide, rfl⟩, ?_⟩⟩
    exact ⟨_, Language.append_mem_mul hinfo rfl, rfl⟩
  code := -1
  message := ""
  refusal := frameOf .getLastInsertId (.error (-1, ""))
  refusal_eq := ⟨(0, 0, 0, 0), -1, [0], ⟨textEncodable_empty.noTrailingNul, 1, rfl⟩, by decide, rfl⟩

/-- A row is inserted, the transaction is ended, and the client is closed, and called again. -/
def calls : List (ℕ × Operation) :=
  [(0, .execute "INSERT INTO t VALUES (1)" []), (0, .commit), (0, .close), (0, .ping)]

theorem legal_calls (t : DirectSession Bool) :
    Legal (fun (call : ℕ × Operation) t => call.2.Fits t.statements)
      (fun call => DirectSession.perform server.toDatabase call.1 call.2) calls t := by
  refine ⟨?_, fun _ _ _ => ⟨trivial, fun _ _ _ => ⟨trivial, fun _ _ _ =>
    ⟨trivial, fun _ _ _ => trivial⟩⟩⟩⟩
  change (Utf8.encode _).length < _
  decide +kernel

theorem each_calls (autoCommit : Bool) :
    each (fun call : ℕ × Operation => DirectSession.perform server.toDatabase call.1 call.2) calls
      (DirectSession.start false autoCommit) =
        some ([.ok (.affected 1), .ok .done, .ok .done, .err .connectionClosed],
          ⟨⟨false, autoCommit, false⟩, []⟩) := rfl

end OneHandle

namespace Session

open OneHandle

/-- The outcomes are the ones of the database, and the handle is not in use in the end. -/
theorem outcomes_eq_calls : ∃ s : Session (Visit site),
    each (fun call => perform call.1 call.2) calls
      (start ⟨⟨.serving, false, []⟩, (0, 0, 0, 0)⟩ true 7) =
        some ([.ok (.affected 1), .ok .done, .ok .done, .err .connectionClosed], s) ∧
      s.served = some false := by
  have hrel := outcomes_eq (Visit.behind site) rfl (0, 0, 0, 0) true
    (legal_calls (.start false true))
  rw [each_calls] at hrel
  obtain ⟨x, hrun, houtcomes, hagrees⟩ := exists_of_rel_some hrel
  exact ⟨x.2, hrun.trans (congrArg some (Prod.ext houtcomes rfl)), hagrees.served_eq⟩

/-- The same of a client that connects to the site by its name. -/
theorem connect_outcomes_eq_calls : ∃ client conn, ∃ s : Session (Visit site),
    Client.connect "cubrid://dba@localhost/demodb?autocommit=false"
      (⟨⟨.away, false, []⟩, (0, 0, 0, 0)⟩ : Connection (Visit site)) = some (.ok client, conn) ∧
    each (fun call => perform call.1 call.2) calls ⟨client, [], none⟩ =
      some ([.ok (.affected 1), .ok .done, .ok .done, .err .connectionClosed], s) ∧
    s.served = some false := by
  have hparse : Dsn.parse "cubrid://dba@localhost/demodb?autocommit=false" =
      .ok ⟨"localhost", 33000, "demodb", "dba", "", false, 30⟩ := by decide +kernel
  obtain ⟨client, conn, hconnect, hrel⟩ := connect_outcomes_eq site hparse rfl rfl (by decide)
    (by decide) false (legal_calls _)
  rw [each_calls] at hrel
  obtain ⟨x, hrun, houtcomes, -, hserved⟩ := exists_of_rel_some hrel
  exact ⟨client, conn, x.2, hconnect, hrun.trans (congrArg some (Prod.ext houtcomes rfl)),
    hserved⟩

end Session

end CubridDriver
