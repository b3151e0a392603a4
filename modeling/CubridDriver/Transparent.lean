import CubridDriver.Direct
import CubridDriver.Framing
import CubridDriver.Lib.Refine

/-!
# The wire is transparent

A server is a database that reads calls off requests and writes its answers down, in any word
of the format of the answer (`CubridDriver.Server`). A client that talks to it over a socket
returns what a client returns that calls the database directly, and the database goes
through the same states: requests and responses, frames and tokens cannot be seen.

This is a simulation. `CubridDriver.Agrees` relates a client to a direct one, and carries what
the parsers depend on: that the columns a statement remembers are the ones the server has for
its handle. One exchange is one call (`CubridDriver.relates_ask`); from it the operations follow
by the rules of `CubridDriver.Lib.Refine`, and whole sessions in
`CubridDriver.Session.perform_transparent`.
-/

namespace CubridDriver

open Prog Connection

/-! ### Servers -/

/-- The words that stand for an answer to a call. How the rows of a handle are written depends
on what the server has for it. -/
def Call.format (protoVersion : Int32) (info : Int32 → Option HandleInfo) (casInfo : CasInfo) :
    (c : Call) → c.Answer → Language UInt8
  | .prepareAndExecute .., r => (ResponseParser.prepareAndExecute protoVersion).format (r, casInfo)
  | .prepare .., r => ResponseParser.prepare.format (r, casInfo)
  | .execute handle .., r => {w | ∃ i, info handle = some i ∧
      w ∈ (ResponseParser.execute i.columns i.stmtType protoVersion).format (r, casInfo)}
  | .fetch handle .., r => {w | ∃ i, info handle = some i ∧
      w ∈ (ResponseParser.fetch i.columns i.stmtType).format (r, casInfo)}
  | .getLastInsertId, id => ResponseParser.getLastInsertId.format (id, casInfo)
  | .getDbVersion _, version => ResponseParser.getDbVersion.format (version, casInfo)
  | .closeReqHandle _, _ | .endTran _, _ => ResponseParser.simpleResponse.format casInfo
  | .conClose, _ => 0

/-- A server: a database that writes its answers down. Which word of the format it takes, and
which CAS info token it sends along, is up to the server. -/
structure Server (δ : Type) extends Database δ where
  /-- The version of the protocol. -/
  protoVersion : Int32
  /-- The frame that answers a call. -/
  reply : Call → δ → Frame
  /-- An answer is written in its format; the last request has none. -/
  reply_ok : ∀ {c db a db'}, call c db = (.ok a, db') → c ≠ .conClose →
    ∃ casInfo, (reply c db).data ∈ c.format protoVersion (info db) casInfo a
  /-- A refusal is written with its code and its message. -/
  reply_error : ∀ {c db code message db'}, call c db = (.error (code, message), db') →
    ∃ casInfo responseCode, ∃ text ∈ textFormat message, responseCode < 0 ∧
      (reply c db).data = refusalBytes casInfo responseCode code text

/-- The server is behind a socket. `At` tells its state when nothing is to arrive, and `Gone`
the one in which it was left. -/
structure Behind {δ τ : Type} [Socket τ] (S : Server δ) (At Gone : δ → τ → Prop) : Prop where
  /-- A request is answered, and its answer can be received. -/
  exchange : ∀ {db} {conn : Connection τ} {request token c}, At db conn.stream →
    readRequest request = some (token, c) → c ≠ .conClose →
    ∃ conn₁ stream, sendFramed request conn = some (.ok (), conn₁) ∧
      recvFramed conn₁ = some (.ok (S.reply c db).response, { conn with stream }) ∧
      At (S.call c db).2 stream
  /-- The last request is not answered. -/
  conClose : ∀ {db stream request token}, At db stream →
    readRequest request = some (token, .conClose) →
    Gone (S.call .conClose db).2 (Socket.writeAll request stream).2

/-! ### Clients that agree -/

variable {δ τ : Type} [Socket τ] {S : Server δ} {At Gone : δ → τ → Prop}

omit [Socket τ] in
/-- The server that is behind a connection is in the state of the database; without a connection,
the direct client has been closed. -/
def Attached (At : δ → τ → Prop) (d : Direct δ) : Option (Connection τ) → Prop
  | some conn => d.connected = true ∧ At d.db conn.stream
  | none => d.connected = false

omit [Socket τ] in
/-- A client agrees with a direct one of which `K` holds: they have the same mode, and the
server that is behind the socket is in the same state. -/
structure Agrees (S : Server δ) (At : δ → τ → Prop) (K : Direct δ → Prop) (client : Client τ)
    (d : Direct δ) : Prop where
  autoCommit : client.autoCommit = d.autoCommit
  protoVersion : client.protoVersion = S.protoVersion
  /-- There is a connection, unless the client has been closed. -/
  conn : Attached At d client.conn
  holds : K d

omit [Socket τ] in
theorem Agrees.imp {K M : Direct δ → Prop} {client : Client τ} {d : Direct δ}
    (h : Agrees S At K client d) (hKM : ∀ d, K d → M d) : Agrees S At M client d :=
  { h with holds := hKM d h.holds }

/-- What a parser has to do for a call: read the answer, and report a refusal. -/
structure Parses (S : Server δ) (K : Direct δ → Prop) (c : Call)
    (parse : Bytes → Outcome ProtocolError (c.Answer × CasInfo)) : Prop where
  ok : ∀ {d data casInfo a}, K d → d.connected = true →
    data.1 ∈ c.format S.protoVersion (S.info d.db) casInfo a → parse data = .ok (a, casInfo)
  refusal : ∀ {data casInfo responseCode code text}, responseCode < 0 →
    data.1 = refusalBytes casInfo responseCode code text → parse data = serverErrorOf code text

theorem serverErrorOf_text {α : Type} {message : String} {text : List UInt8} (code : Int32)
    (h : text ∈ textFormat message) :
    (serverErrorOf code text : Outcome ProtocolError α) = .err (.serverError code message) := by
  obtain ⟨hnul, n, rfl⟩ := h
  rw [serverErrorOf, stringOfBytes, stripNulls_append_replicate hnul, Utf8.decode_encode]
  rfl

theorem map_serverErrorOf {α β : Type} (f : α → β) (code : Int32) (message : List UInt8) :
    f <$> serverErrorOf code message = serverErrorOf code message := by
  rw [serverErrorOf, serverErrorOf]
  cases stringOfBytes message <;> rfl

/-- What is made of a response that has no more than a token. -/
def parseDone (resp : Bytes) : Outcome ProtocolError (Unit × CasInfo) :=
  (fun casInfo => ((), casInfo)) <$> parseSimpleResponse resp

theorem parseDone_format {data : Bytes} {casInfo : CasInfo}
    (h : data.1 ∈ ResponseParser.simpleResponse.format casInfo) :
    parseDone data = .ok ((), casInfo) := by
  rw [parseDone, parseSimpleResponse_format h]
  rfl

theorem parseDone_refusal {data : Bytes} {casInfo : CasInfo} {responseCode code : Int32}
    {message : List UInt8} (hneg : responseCode < 0)
    (hdata : data.1 = refusalBytes casInfo responseCode code message) :
    parseDone data = serverErrorOf code message := by
  have hrun : parseSimpleResponse data = serverErrorOf code message :=
    ResponseParser.simpleResponse.run_refusal hneg hdata
  rw [parseDone, hrun, map_serverErrorOf]

/-- A reply is parsed as what the database has answered. -/
theorem Parses.reply {K : Direct δ → Prop} {c : Call}
    {parse : Bytes → Outcome ProtocolError (c.Answer × CasInfo)} (hparse : Parses S K c parse)
    {d : Direct δ} (hd : K d) (hopen : d.connected = true) (hne : c ≠ .conClose) :
    ∃ casInfo, (parse (S.reply c d.db).response).mapErr .protocol =
      (fun a => (a, casInfo)) <$> Database.outcome (S.call c d.db).1 := by
  rcases hanswer : S.call c d.db with ⟨(⟨code, message⟩ | a), db'⟩
  · obtain ⟨casInfo, responseCode, text, htext, hneg, hdata⟩ := S.reply_error hanswer
    have hrefusal := @hparse.refusal (S.reply c d.db).response _ _ _ _ hneg hdata
    rw [hrefusal, serverErrorOf_text code htext]
    exact ⟨casInfo, rfl⟩
  · obtain ⟨casInfo, hdata⟩ := S.reply_ok hanswer hne
    have hok := @hparse.ok d (S.reply c d.db).response _ _ hd hopen hdata
    rw [hok]
    exact ⟨casInfo, rfl⟩

omit [Socket τ] in
/-- A program on a connection makes a call. -/
def Asks (S : Server δ) (At : δ → τ → Prop) (K : Direct δ → Prop) (c : Call)
    (p : Prog (Connection τ) Error c.Answer) : Prop :=
  ∀ d (conn : Connection τ), K d → d.connected = true → At d.db conn.stream →
    ∃ conn', p conn = some (Database.outcome (S.call c d.db).1, conn') ∧
      At (S.call c d.db).2 conn'.stream

/-- A request arrives, and what is received is the reply. -/
theorem Behind.answer (hbehind : Behind S At Gone) {input : RequestInput} {c : Call}
    (hfits : input.Fits) (hcall : input.call = c) (hne : c ≠ .conClose) {db : δ}
    {conn : Connection τ} (hat : At db conn.stream) :
    ∃ data conn₁ stream, input.build conn.casInfo = .ok data ∧
      sendFramed data conn = some (.ok (), conn₁) ∧
      recvFramed conn₁ = some (.ok (S.reply c db).response, { conn with stream }) ∧
      At (S.call c db).2 stream := by
  have hread := readRequest_framed hfits conn.casInfo
  rw [hcall] at hread
  obtain ⟨conn₁, stream, hsend, hrecv, hat'⟩ := hbehind.exchange hat hread hne
  exact ⟨_, conn₁, stream, RequestInput.build_eq_framed hfits conn.casInfo, hsend, hrecv, hat'⟩

/-- **One exchange is one call.** -/
theorem asks_exchange (hbehind : Behind S At Gone) {K : Direct δ → Prop} {input : RequestInput}
    {c : Call} {parse : Bytes → Outcome ProtocolError (c.Answer × CasInfo)} (hfits : input.Fits)
    (hcall : input.call = c) (hne : c ≠ .conClose) (hparse : Parses S K c parse) :
    Asks S At K c (exchange input.build parse) := by
  intro d conn hd hopen hat
  obtain ⟨data, conn₁, stream, hbuild, hsend, hrecv, hat'⟩ :=
    hbehind.answer hfits hcall hne hat
  obtain ⟨casInfo, hreply⟩ := hparse.reply hd hopen hne
  rw [exchange, bind_ok (a := conn) (t := conn) rfl, hbuild, bind_ok (a := data) (t := conn) rfl,
    bind_ok hsend, bind_ok hrecv, hreply]
  -- the token that came along is kept if the reply was accepted
  cases (S.call c d.db).1 with
  | ok a => exact ⟨⟨stream, casInfo⟩, rfl, hat'⟩
  | error e => exact ⟨_, rfl, hat'⟩

/-- The closing of a handle is a call, too, though its token is not kept. -/
theorem asks_closeReqHandle (hbehind : Behind S At Gone) {K : Direct δ → Prop} (handle : Int32) :
    Asks S At K (.closeReqHandle handle) do
      let conn ← Prog.get
      sendFramed (writeCloseReqHandle handle conn.casInfo)
      let resp ← recvFramed
      let _ ← Prog.lift ((parseSimpleResponse resp).mapErr .protocol)
      return () := by
  intro d conn hd hopen hat
  have hparse : Parses S K (.closeReqHandle handle) parseDone :=
    ⟨fun _ _ h => parseDone_format h, parseDone_refusal⟩
  obtain ⟨data, conn₁, stream, hbuild, hsend, hrecv, hat'⟩ :=
    @Behind.answer _ _ _ _ _ _ hbehind (.closeReqHandle handle) (.closeReqHandle handle) trivial
      rfl nofun _ _ hat
  obtain rfl := Outcome.ok.inj hbuild
  obtain ⟨casInfo, hreply⟩ := hparse.reply hd hopen nofun
  refine ⟨{ conn with stream }, ?_, hat'⟩
  rw [bind_ok (a := conn) (t := conn) rfl, bind_ok hsend, bind_ok hrecv]
  -- what is parsed is the token, and then it is dropped
  rw [parseDone] at hreply
  generalize parseSimpleResponse _ = x at hreply ⊢
  generalize Database.outcome _ = y at hreply ⊢
  cases x <;> cases y <;> cases hreply <;> rfl

omit [Socket τ] in
/-- **The rule of a call.** -/
theorem relates_ask {K M : Direct δ → Prop} {c : Call} {p : Prog (Connection τ) Error c.Answer}
    {L : c.Answer → Direct δ → Prop} (hasks : Asks S At K c p)
    (hok : ∀ d a db', K d → d.connected = true → S.call c d.db = (.ok a, db') →
      L a { d with db := db' })
    (herr : ∀ d e db', K d → d.connected = true → S.call c d.db = (.error e, db') →
      M { d with db := db' })
    (hclosed : ∀ d, K d → d.connected = false → M d) :
    Relates (Agrees S At K) (Client.onConn p) (S.ask c) (fun a => Agrees S At (L a))
      (Agrees S At M) := by
  intro client d h
  obtain ⟨hauto, hproto, hconn, hd⟩ := h
  rw [Database.ask]
  rcases hclient : client.conn with - | conn
  · rw [hclient] at hconn
    rw [Client.onConn, hclient, if_neg (by rw [hconn]; exact Bool.false_ne_true)]
    refine .err ⟨hauto, hproto, ?_, hclosed d hd hconn⟩
    rw [hclient]
    exact hconn
  · rw [hclient] at hconn
    obtain ⟨hopen, hat⟩ := hconn
    obtain ⟨conn', hp, hat'⟩ := hasks d conn hd hopen hat
    rw [onConn_eq_some hclient hp, if_pos hopen]
    rcases hanswer : S.call c d.db with ⟨(e | a), db'⟩
    · rw [hanswer] at hat'
      exact .err ⟨hauto, hproto, ⟨hopen, hat'⟩, herr d e db' hd hopen hanswer⟩
    · rw [hanswer] at hat'
      exact .ok ⟨hauto, hproto, ⟨hopen, hat'⟩, hok d a db' hd hopen hanswer⟩

/-! ### What is known of the handles -/

/-- What is known of a direct client, which is open or not: the server has the columns of every
statement that has not been closed, and nothing happens to it behind a closed client. -/
structure Knows (S : Server δ) (isOpen : Bool) (G : δ → Prop) (statements : List Statement)
    (d : Direct δ) : Prop where
  connected : d.connected = isOpen
  info : isOpen = true → ∀ stmt ∈ statements, stmt.closed = false →
    S.info d.db stmt.queryHandle = some ⟨stmt.statementType, stmt.columns⟩
  gone : isOpen = false → G d.db

/-- What is known while rows are fetched: the server has the columns of the cursor, too. A
handle that has been assigned for one call is the handle of no statement. -/
structure KnowsCursor (S : Server δ) (isOpen : Bool) (G : δ → Prop) (statements : List Statement)
    (cursor : Cursor) (d : Direct δ) : Prop extends Knows S isOpen G statements d where
  described : isOpen = true → S.info d.db cursor.handle = some ⟨cursor.stmtType, cursor.columns⟩
  owned : cursor.owned = true → isOpen = true → ∀ stmt ∈ statements, stmt.closed = false →
    stmt.queryHandle ≠ cursor.handle

/-- The statements that have not been closed have handles of their own. -/
def Distinct (statements : List Statement) : Prop :=
  statements.Pairwise fun a b => a.closed = false → b.closed = false →
    a.queryHandle ≠ b.queryHandle

/-- A statement that is put in the place of one, and is closed, leaves no statement with the
handle of that one. -/
theorem Distinct.ne_of_mem_set {statements : List Statement} (h : Distinct statements) {i : ℕ}
    (hi : i < statements.length) (hopen : statements[i].closed = false) {stmt' : Statement}
    (hstmt' : stmt'.closed = true) {other : Statement} (hmem : other ∈ statements.set i stmt')
    (hother : other.closed = false) : other.queryHandle ≠ statements[i].queryHandle := by
  obtain ⟨j, hj, rfl⟩ := List.mem_iff_getElem.mp hmem
  rw [List.length_set] at hj
  have hij : i ≠ j := by
    rintro rfl
    rw [List.getElem_set_self, hstmt'] at hother
    cases hother
  rw [List.getElem_set_ne hij] at hother ⊢
  have hpairwise := List.pairwise_iff_getElem.mp h
  rcases Nat.lt_or_gt_of_ne hij with hlt | hlt
  · exact (hpairwise i j hi hj hlt hopen hother).symm
  · exact hpairwise j i hj hi hlt hother hopen

/-- Closing a statement keeps handles apart. -/
theorem Distinct.set_closed {statements : List Statement} (h : Distinct statements) (i : ℕ)
    {stmt' : Statement} (hstmt' : stmt'.closed = true) : Distinct (statements.set i stmt') := by
  refine List.pairwise_iff_getElem.mpr fun j k hj hk hjk hopenj hopenk => ?_
  rw [List.length_set] at hj hk
  have hne : ∀ l (hl : l < (statements.set i stmt').length),
      (statements.set i stmt')[l].closed = false → i ≠ l := by
    rintro l hl hopen rfl
    rw [List.getElem_set_self, hstmt'] at hopen
    cases hopen
  have hij := hne j _ hopenj
  have hik := hne k _ hopenk
  rw [List.getElem_set_ne hij] at hopenj ⊢
  rw [List.getElem_set_ne hik] at hopenk ⊢
  exact List.pairwise_iff_getElem.mp h j k hj hk hjk hopenj hopenk

/-- Closing a statement, or leaving it as it was. -/
theorem Distinct.set {statements : List Statement} (h : Distinct statements) {i : ℕ}
    {stmt stmt' : Statement} (hstmt : statements[i]? = some stmt)
    (hstmt' : stmt' = stmt ∨ stmt'.closed = true) : Distinct (statements.set i stmt') := by
  rcases hstmt' with rfl | hclosed
  · obtain ⟨hi, rfl⟩ := List.getElem?_eq_some_iff.mp hstmt
    rw [List.set_getElem_self]
    exact h
  · exact h.set_closed i hclosed

theorem Distinct.append_singleton {statements : List Statement} (h : Distinct statements)
    {stmt : Statement} (hne : ∀ other ∈ statements, other.closed = false →
      other.queryHandle ≠ stmt.queryHandle) : Distinct (statements ++ [stmt]) := by
  refine List.pairwise_append.mpr ⟨h, List.pairwise_singleton _ _, fun a ha b hb hopen _ => ?_⟩
  rw [List.mem_singleton.mp hb]
  exact hne a ha hopen

section Handles

variable {isOpen : Bool} {G : δ → Prop} {statements : List Statement} {cursor : Cursor}
  {d : Direct δ} {c : Call} {x : Except (Int32 × String) c.Answer} {db' : δ}

theorem Server.info_of_call (h : S.call c d.db = (x, db')) {handle : Int32} {i : HandleInfo}
    (hinfo : S.info d.db handle = some i) (hclose : c ≠ .closeReqHandle handle)
    (hlast : c ≠ .conClose) : S.info db' handle = some i := by
  have hkept := S.info_call hinfo hclose hlast
  rwa [h] at hkept

/-- **A call keeps what is known**, unless it closes the handle of a statement. -/
theorem Knows.call (hd : Knows S isOpen G statements d) (hopen : d.connected = true)
    (h : S.call c d.db = (x, db')) (hlast : c ≠ .conClose)
    (hclose : ∀ stmt ∈ statements, stmt.closed = false → c ≠ .closeReqHandle stmt.queryHandle) :
    Knows S isOpen G statements { d with db := db' } where
  connected := hd.connected
  info hisOpen stmt hmem hstmt :=
    S.info_of_call h (hd.info hisOpen stmt hmem hstmt) (hclose stmt hmem hstmt) hlast
  gone hclosed := absurd (hd.connected.symm.trans hopen) (by rw [hclosed]; nofun)

theorem KnowsCursor.call (hd : KnowsCursor S isOpen G statements cursor d)
    (hopen : d.connected = true) (h : S.call c d.db = (x, db')) (hlast : c ≠ .conClose)
    (hclose : ∀ handle, c ≠ .closeReqHandle handle) :
    KnowsCursor S isOpen G statements cursor { d with db := db' } where
  toKnows := hd.toKnows.call hopen h hlast fun _ _ _ => hclose _
  described hisOpen := S.info_of_call h (hd.described hisOpen) (hclose _) hlast
  owned := hd.owned

omit [Socket τ] in
/-- A statement that is closed can be put anywhere. -/
theorem Knows.set_closed (hd : Knows S isOpen G statements d) (i : ℕ) {stmt' : Statement}
    (hstmt' : stmt'.closed = true) : Knows S isOpen G (statements.set i stmt') d where
  connected := hd.connected
  info hisOpen stmt hmem hstmt := by
    rcases List.mem_or_eq_of_mem_set hmem with hmem | rfl
    · exact hd.info hisOpen stmt hmem hstmt
    · rw [hstmt'] at hstmt
      cases hstmt
  gone := hd.gone

/-- A handle that is not in use is the handle of no statement. -/
theorem Knows.ne_of_info_eq_none (hd : Knows S isOpen G statements d) {handle : Int32}
    (hnone : S.info d.db handle = none) (hisOpen : isOpen = true) :
    ∀ stmt ∈ statements, stmt.closed = false → stmt.queryHandle ≠ handle := by
  intro stmt hmem hstmt heq
  have hinfo := hd.info hisOpen stmt hmem hstmt
  rw [heq, hnone] at hinfo
  cases hinfo

end Handles

/-! ### Operations -/

/-- A text that fits a request, with its parameters. -/
def TextFits (sql : String) (params : List Value) : Prop :=
  (Utf8.encode (interpolateParams sql params)).length < 2 ^ 31 - 2

section Operations

variable {isOpen : Bool} {G : δ → Prop} {statements : List Statement} {cursor : Cursor}
  (hbehind : Behind S At Gone)
include hbehind

/-- A text is executed by one call, which assigns a handle that no statement has. -/
theorem relates_prepareAndExecute {sql : String} {params : List Value}
    (hfits : TextFits sql params) :
    Relates (Agrees S At (Knows S isOpen G statements)) (Client.prepareAndExecute sql params)
      (S.prepareAndExecute sql params)
      (fun r => Agrees S At (KnowsCursor S isOpen G statements r.cursor))
      (Agrees S At (Knows S isOpen G statements)) := by
  refine relates_get_bind fun client d hagrees => ?_
  rw [hagrees.autoCommit, hagrees.protoVersion]
  refine relates_ask (@asks_exchange _ _ _ _ _ _ hbehind _ (.prepareAndExecute _ _) _ _ hfits rfl
    nofun ⟨?_, ?_⟩) ?_ ?_ ?_
  · exact fun _ _ h => ResponseParser.run_of_mem (.prepareAndExecute S.protoVersion) h
  · exact fun hneg h => ResponseParser.run_refusal (.prepareAndExecute S.protoVersion) hneg h
  · intro d r db' hd hopen hanswer
    obtain ⟨hnone, hsome⟩ := S.info_prepareAndExecute hanswer
    exact ⟨hd.call hopen hanswer nofun fun _ _ _ => nofun, fun _ => hsome,
      fun _ hisOpen => hd.ne_of_info_eq_none hnone hisOpen⟩
  · exact fun d e db' hd hopen hanswer => hd.call hopen hanswer nofun fun _ _ _ => nofun
  · exact fun d hd _ => hd

/-- A fetch is one call, unless there is no position to start at. -/
theorem relates_fetch (fetched : Int32) :
    Relates (Agrees S At (KnowsCursor S isOpen G statements cursor)) (cursor.fetch fetched)
      (S.fetch cursor fetched) (fun _ => Agrees S At (KnowsCursor S isOpen G statements cursor))
      (Agrees S At (Knows S isOpen G statements)) := by
  by_cases hstart : fetched.toInt < 2 ^ 31 - 1
  -- the position is the next one, for the builder and for the direct client
  · have hlo := fetched.le_toInt
    have hone : (1 : Int32).toInt = 1 := rfl
    have hadd : (checkedAdd fetched 1 : Outcome Error Int32) = .ok (fetched + 1) :=
      (checkedAdd_eq_ok (by omega) (by omega)).1
    have hlast (handle start size : Int32) : Call.fetch handle start size ≠ .conClose :=
      fun h => by cases h
    have hclose (handle start size other : Int32) :
        Call.fetch handle start size ≠ .closeReqHandle other := fun h => by cases h
    have hdirect : S.fetch cursor fetched =
        S.ask (.fetch cursor.handle (fetched + 1) DEFAULT_FETCH_SIZE) := by
      funext d
      rw [Database.fetch, bind_ok (a := d) (t := d) rfl, hadd]
      by_cases hopen : d.connected
      · rw [if_pos hopen]
        rfl
      · rw [if_neg hopen, Database.ask, if_neg hopen]
        rfl
    rw [hdirect]
    refine relates_ask (@asks_exchange _ _ _ _ _ _ hbehind _ (.fetch _ _ _) _ _ hstart rfl
      (hlast _ _ _) ⟨?_, ?_⟩) ?_ ?_ ?_
    · rintro d data casInfo r hd hopen ⟨i, hinfo, hdata⟩
      obtain rfl := Option.some.inj
        ((hd.described (hd.connected.symm.trans hopen)).symm.trans hinfo)
      exact ResponseParser.run_of_mem (.fetch cursor.columns cursor.stmtType) hdata
    · exact fun hneg h =>
        ResponseParser.run_refusal (.fetch cursor.columns cursor.stmtType) hneg h
    · exact fun d r db' hd hopen hanswer => hd.call hopen hanswer (hlast _ _ _) (hclose _ _ _)
    · exact fun d e db' hd hopen hanswer =>
        hd.toKnows.call hopen hanswer (hlast _ _ _) fun _ _ _ => hclose _ _ _ _
    · exact fun d hd _ => hd.toKnows
  -- there is none: both panic, if they are connected
  · have hadd : (checkedAdd fetched 1 : Outcome Error Int32) = .panic := by
      have hone : (1 : Int32).toInt = 1 := rfl
      exact if_neg (by omega)
    intro client d hagrees
    have hknows := hagrees.holds.toKnows
    have hconn := hagrees.conn
    rw [Database.fetch, bind_ok (t := d) (a := d) rfl, hadd, Cursor.fetch]
    rcases hclient : client.conn with - | conn
    · rw [hclient] at hconn
      rw [Client.onConn, hclient, if_neg (by rw [hconn]; exact Bool.false_ne_true)]
      exact .err ⟨hagrees.autoCommit, hagrees.protoVersion, hagrees.conn, hknows⟩
    · rw [hclient] at hconn
      have hpanic : exchange (writeFetch cursor.handle fetched DEFAULT_FETCH_SIZE)
          (fun resp => parseFetch resp cursor.columns cursor.stmtType) conn =
            some (.panic, conn) := by
        rw [exchange, bind_ok (t := conn) (a := conn) rfl, writeFetch, hadd]
        rfl
      rw [onConn_eq_some hclient hpanic, if_pos hconn.1]
      exact .panic ⟨hagrees.autoCommit, hagrees.protoVersion, hconn, hknows⟩

/-- **The fetch loop**, by induction on its fuel. -/
theorem relates_fetchLoop (totalCount : Int32) (fuel : ℕ) (fetchedCount : Int32)
    (rows : List Row) :
    Relates (Agrees S At (KnowsCursor S isOpen G statements cursor))
      (Client.fetchLoop cursor.handle cursor.columns cursor.stmtType totalCount fuel fetchedCount
        rows)
      (S.fetchLoop cursor totalCount fuel fetchedCount rows)
      (fun _ => Agrees S At (KnowsCursor S isOpen G statements cursor))
      (Agrees S At (Knows S isOpen G statements)) := by
  induction fuel generalizing fetchedCount rows with
  | zero => exact relates_outOfFuel
  | succ fuel ih =>
    refine relates_ite (fun _ => ?_) fun _ => relates_pure fun _ _ h => h
    refine relates_bind (relates_fetch hbehind fetchedCount) fun batch => ?_
    refine relates_ite (fun _ => relates_pure fun _ _ h => h) fun _ => ?_
    refine relates_bind (relates_lift _ (fun _ _ _ _ h => h) fun _ _ h => ?_)
      fun fetchedCount' => ih fetchedCount' _
    exact h.imp fun _ hd => hd.toKnows

theorem relates_fetchIfNeeded (fuel : ℕ) (totalCount : Int32) (rows : List Row) :
    Relates (Agrees S At (KnowsCursor S isOpen G statements cursor))
      (Client.fetchIfNeeded fuel cursor.handle cursor.columns cursor.stmtType totalCount rows)
      (S.fetchIfNeeded fuel cursor totalCount rows)
      (fun _ => Agrees S At (KnowsCursor S isOpen G statements cursor))
      (Agrees S At (Knows S isOpen G statements)) :=
  relates_ite (fun _ => relates_fetchLoop hbehind _ _ _ _) fun _ => relates_pure fun _ _ h => h

/-- A handle is closed, whatever is answered. -/
theorem relates_closeQueryHandle {K M : Direct δ → Prop} {E : Client τ → Direct δ → Prop}
    {handle : Int32}
    (hclose : ∀ d x db', K d → d.connected = true →
      S.call (.closeReqHandle handle) d.db = (x, db') → M { d with db := db' })
    (hclosed : ∀ d, K d → d.connected = false → M d) :
    Relates (Agrees S At K) (Client.closeQueryHandle handle) (S.closeHandle handle)
      (fun _ => Agrees S At M) E :=
  relates_ignoreErr (relates_ask (asks_closeReqHandle hbehind handle)
    (fun d a db' hd hopen hanswer => hclose d (.ok a) db' hd hopen hanswer)
    (fun d e db' hd hopen hanswer => hclose d (.error e) db' hd hopen hanswer) hclosed)
    (S.ask_ne_panic _)

/-- The handle that was assigned for one call is closed. It is the handle of no statement. -/
theorem relates_releaseHandle (howned : cursor.owned = true) :
    Relates (Agrees S At (KnowsCursor S isOpen G statements cursor))
      (Client.releaseHandle cursor.handle) (S.releaseHandle cursor.handle)
      (fun _ => Agrees S At (Knows S isOpen G statements))
      (Agrees S At (Knows S isOpen G statements)) := by
  refine relates_ite (fun _ => relates_closeQueryHandle hbehind ?_ fun d hd _ => hd.toKnows)
    fun _ => relates_pure fun _ _ h => h.imp fun _ hd => hd.toKnows
  intro d x db' hd hopen hanswer
  refine hd.toKnows.call hopen hanswer nofun fun stmt hmem hstmt hcall => ?_
  exact hd.owned howned (hd.connected.symm.trans hopen) stmt hmem hstmt
    (Call.closeReqHandle.inj hcall).symm

/-- **A text is executed.** -/
theorem relates_execute {sql : String} {params : List Value} (hfits : TextFits sql params) :
    Relates (Agrees S At (Knows S isOpen G statements)) (Client.execute sql params)
      (S.execute sql params) (fun _ => Agrees S At (Knows S isOpen G statements))
      (Agrees S At (Knows S isOpen G statements)) := by
  refine relates_bind (relates_prepareAndExecute hbehind hfits) fun r => ?_
  refine relates_bind (@relates_releaseHandle _ _ _ _ _ _ _ _ _ r.cursor hbehind rfl) fun _ => ?_
  exact relates_lift _ (fun _ _ _ _ h => h) fun _ _ h => h

/-- **A text is queried.** -/
theorem relates_query (fuel : ℕ) {sql : String} {params : List Value}
    (hfits : TextFits sql params) :
    Relates (Agrees S At (Knows S isOpen G statements)) (Client.query fuel sql params)
      (S.query fuel sql params) (fun _ => Agrees S At (Knows S isOpen G statements))
      (Agrees S At (Knows S isOpen G statements)) := by
  refine relates_bind (relates_prepareAndExecute hbehind hfits) fun r => ?_
  refine relates_bind (@relates_fetchIfNeeded _ _ _ _ _ _ _ _ _ r.cursor hbehind fuel _ _)
    fun rows => ?_
  refine relates_bind (@relates_releaseHandle _ _ _ _ _ _ _ _ _ r.cursor hbehind rfl) fun _ => ?_
  exact relates_pure fun _ _ h => h

/-- **A text is prepared**: the statement gets a handle that no other one has. -/
theorem relates_prepare {sql : String} (hfits : (Utf8.encode sql).length < 2 ^ 31 - 2) :
    Relates (Agrees S At (Knows S isOpen G statements)) (Client.prepare sql) (S.prepare sql)
      (fun stmt => Agrees S At fun d => Knows S isOpen G (statements ++ [stmt]) d ∧
        ∀ other ∈ statements, other.closed = false → other.queryHandle ≠ stmt.queryHandle)
      (Agrees S At (Knows S isOpen G statements)) := by
  refine relates_get_bind fun client d hagrees => ?_
  rw [hagrees.autoCommit]
  refine relates_bind (S := fun r => Agrees S At fun d => Knows S isOpen G statements d ∧
    isOpen = true ∧ S.info d.db r.queryHandle = some ⟨r.statementType, r.columns⟩ ∧
    ∀ other ∈ statements, other.closed = false → other.queryHandle ≠ r.queryHandle)
    (relates_ask (@asks_exchange _ _ _ _ _ _ hbehind _ (.prepare _ _) _ _ hfits rfl nofun
      ⟨?_, ?_⟩) ?_ ?_ ?_) fun r => relates_pure ?_
  · exact fun _ _ h => ResponseParser.prepare.run_of_mem h
  · exact fun hneg h => ResponseParser.prepare.run_refusal hneg h
  · intro d r db' hd hopen hanswer
    obtain ⟨hnone, hsome⟩ := S.info_prepare hanswer
    have hisOpen := hd.connected.symm.trans hopen
    exact ⟨hd.call hopen hanswer nofun fun _ _ _ => nofun, hisOpen, hsome,
      hd.ne_of_info_eq_none hnone hisOpen⟩
  · exact fun d e db' hd hopen hanswer => hd.call hopen hanswer nofun fun _ _ _ => nofun
  · exact fun d hd _ => hd
  · rintro client d h
    refine h.imp fun d ⟨hd, hisOpen, hinfo, hne⟩ =>
      ⟨⟨hd.connected, fun _ stmt hmem hstmt => ?_, hd.gone⟩, hne⟩
    rcases List.mem_append.mp hmem with hmem | hmem
    · exact hd.info hisOpen stmt hmem hstmt
    · rw [List.mem_singleton.mp hmem]
      exact hinfo

/-- A call that says nothing about handles. -/
theorem relates_askDone {c : Call} {input : RequestInput}
    {parse : Bytes → Outcome ProtocolError (c.Answer × CasInfo)} (hfits : input.Fits)
    (hcall : input.call = c) (hne : c ≠ .conClose) (hclose : ∀ handle, c ≠ .closeReqHandle handle)
    (hparse : Parses S (Knows S isOpen G statements) c parse) :
    Relates (Agrees S At (Knows S isOpen G statements))
      (Client.onConn (exchange input.build parse)) (S.ask c)
      (fun _ => Agrees S At (Knows S isOpen G statements))
      (Agrees S At (Knows S isOpen G statements)) :=
  relates_ask (asks_exchange hbehind hfits hcall hne hparse)
    (fun _ _ _ hd hopen hanswer => hd.call hopen hanswer hne fun _ _ _ => hclose _)
    (fun _ _ _ hd hopen hanswer => hd.call hopen hanswer hne fun _ _ _ => hclose _)
    fun _ hd _ => hd

/-- **A transaction is ended.** -/
theorem relates_endTran (tranType : TransactionType) :
    Relates (Agrees S At (Knows S isOpen G statements)) (Client.endTran tranType)
      (S.ask (.endTran tranType)) (fun _ => Agrees S At (Knows S isOpen G statements))
      (Agrees S At (Knows S isOpen G statements)) :=
  @relates_askDone _ _ _ _ _ _ _ _ _ hbehind (.endTran tranType) (.endTran tranType) parseDone
    trivial rfl nofun (fun _ => nofun) ⟨fun _ _ h => parseDone_format h, parseDone_refusal⟩

/-- **The version is asked for.** -/
theorem relates_ping :
    Relates (Agrees S At (Knows S isOpen G statements)) Client.ping S.ping
      (fun _ => Agrees S At (Knows S isOpen G statements))
      (Agrees S At (Knows S isOpen G statements)) := by
  refine relates_get_bind fun client d hagrees => ?_
  rw [hagrees.autoCommit]
  exact @relates_askDone _ _ _ _ _ _ _ _ _ hbehind (.getDbVersion _) (.getDbVersion _) _ trivial
    rfl nofun (fun _ => nofun) ⟨fun _ _ h => ResponseParser.getDbVersion.run_of_mem h,
      fun hneg h => ResponseParser.getDbVersion.run_refusal hneg h⟩

/-- A statement is executed by its handle, and the server has its columns. -/
theorem relates_executeHandle {stmt : Statement} (hmem : stmt ∈ statements)
    (hstmt : stmt.closed = false) :
    Relates (Agrees S At (Knows S isOpen G statements)) stmt.executeHandle (S.executeHandle stmt)
      (fun _ => Agrees S At (KnowsCursor S isOpen G statements stmt.cursor))
      (Agrees S At (Knows S isOpen G statements)) := by
  refine relates_get_bind fun client d hagrees => ?_
  rw [hagrees.autoCommit, hagrees.protoVersion]
  have hfits : RequestInput.Fits
      (.execute stmt.queryHandle stmt.statementType [] d.autoCommit) := ⟨nofun, by decide⟩
  refine relates_ask (asks_exchange hbehind hfits rfl nofun ⟨?_, ?_⟩) ?_ ?_ ?_
  · rintro d data casInfo r hd hopen ⟨i, hinfo, hdata⟩
    have hisOpen := hd.connected.symm.trans hopen
    obtain rfl := Option.some.inj ((hd.info hisOpen stmt hmem hstmt).symm.trans hinfo)
    exact ResponseParser.run_of_mem (.execute stmt.columns stmt.statementType S.protoVersion) hdata
  · exact fun hneg h => ResponseParser.run_refusal
      (.execute stmt.columns stmt.statementType S.protoVersion) hneg h
  · intro d r db' hd hopen hanswer
    have hd' := hd.call hopen hanswer nofun fun _ _ _ => nofun
    exact ⟨hd', fun hisOpen => hd'.info hisOpen stmt hmem hstmt, nofun⟩
  · exact fun d e db' hd hopen hanswer => hd.call hopen hanswer nofun fun _ _ _ => nofun
  · exact fun d hd _ => hd

/-- **A statement is executed.** -/
theorem relates_stmtExecute {stmt : Statement} (hmem : stmt ∈ statements) {params : List Value}
    (hfits : params ≠ [] → TextFits stmt.sql params) :
    Relates (Agrees S At (Knows S isOpen G statements)) (stmt.execute params)
      (S.stmtExecute stmt params) (fun _ => Agrees S At (Knows S isOpen G statements))
      (Agrees S At (Knows S isOpen G statements)) := by
  refine relates_ite (fun _ => relates_throw fun _ _ h => h) fun hopen => ?_
  refine relates_ite (fun hparams => relates_execute hbehind (hfits hparams)) fun _ => ?_
  refine relates_bind (relates_executeHandle hbehind hmem (Bool.eq_false_iff.mpr hopen))
    fun r => ?_
  exact relates_lift _ (fun _ _ _ _ h => h.imp fun _ hd => hd.toKnows)
    fun _ _ h => h.imp fun _ hd => hd.toKnows

/-- **A statement is queried.** -/
theorem relates_stmtQueryWith (fuel : ℕ) {stmt : Statement} (hmem : stmt ∈ statements)
    {params : List Value} (hfits : params ≠ [] → TextFits stmt.sql params) :
    Relates (Agrees S At (Knows S isOpen G statements)) (stmt.queryWith fuel params)
      (S.stmtQueryWith fuel stmt params) (fun _ => Agrees S At (Knows S isOpen G statements))
      (Agrees S At (Knows S isOpen G statements)) := by
  refine relates_ite (fun _ => relates_throw fun _ _ h => h) fun hopen => ?_
  refine relates_ite (fun hparams => relates_query hbehind fuel (hfits hparams)) fun _ => ?_
  refine relates_bind (relates_executeHandle hbehind hmem (Bool.eq_false_iff.mpr hopen))
    fun r => ?_
  refine relates_bind (@relates_fetchIfNeeded _ _ _ _ _ _ _ _ _ stmt.cursor hbehind fuel _ _)
    fun rows => ?_
  exact relates_pure fun _ _ h => h.imp fun _ hd => hd.toKnows

/-- **A statement is closed.** Its handle is closed at the server, which has no other statement
that goes by it. -/
theorem relates_stmtClose {stmt : Statement} {i : ℕ} (hstmt : statements[i]? = some stmt)
    (hdistinct : Distinct statements) :
    Relates (Agrees S At (Knows S isOpen G statements)) stmt.close (S.stmtClose stmt)
      (fun stmt' => Agrees S At fun d => Knows S isOpen G (statements.set i stmt') d ∧
        (stmt' = stmt ∨ stmt'.closed = true))
      (Agrees S At (Knows S isOpen G statements)) := by
  obtain ⟨hi, rfl⟩ := List.getElem?_eq_some_iff.mp hstmt
  refine relates_ite (fun _ => relates_pure fun _ _ h => h.imp fun d hd => ?_) fun hopen => ?_
  · rw [List.set_getElem_self]
    exact ⟨hd, Or.inl rfl⟩
  refine relates_ite (fun _ => ?_) fun _ => relates_pure fun _ _ h => h.imp fun d hd =>
    ⟨hd.set_closed i rfl, Or.inr rfl⟩
  refine relates_bind (S := fun _ => Agrees S At (Knows S isOpen G
    (statements.set i { statements[i] with closed := true, queryHandle := 0 })))
    (relates_closeQueryHandle hbehind ?_ ?_) fun _ =>
      relates_pure fun _ _ h => h.imp fun d hd => ⟨hd, Or.inr rfl⟩
  · intro d x db' hd hconn hanswer
    refine (hd.set_closed i rfl).call hconn hanswer nofun fun other hmem hother hcall => ?_
    exact hdistinct.ne_of_mem_set hi (Bool.eq_false_iff.mpr hopen) rfl hmem hother
      (Call.closeReqHandle.inj hcall).symm
  · exact fun d hd _ => hd.set_closed i rfl

end Operations

end CubridDriver
