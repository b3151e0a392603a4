import CubridDriver.DsnAddress
import CubridDriver.NoPanic
import CubridDriver.OpenDatabase
import CubridDriver.Rules

/-!
# Connecting

How a client comes to its connection. It dials the broker, says what it is, and is told a port:
a negative one is a refusal, zero means that the connection can be kept, and otherwise the
client dials the same host at that port. Then it sends the credentials, which have no frame,
and the response to them, which has one, brings the CAS info token and the version of the
protocol.

The peer may do anything, depending on all that has happened.
`CubridDriver.Recorded.connect_ended` says what can have happened when the client is done: it
follows a script to its end, or up to a refusal, or up to a call that fails. So the credentials
are sent at most once, and not before the broker has agreed.

They are those of the data source, as much of them as the request holds: by
`CubridDriver.Credentials.request_spec` no connection is opened for any others.
-/

namespace CubridDriver

open Prog Connection

/-! ### Constants -/

/-- What a client says first. -/
def BROKER_MAGIC : List UInt8 := [67, 85, 66, 82, 75]

/-- The type of the client. -/
def CLIENT_TYPE_JDBC : UInt8 := 3

/-- The bit that marks a version. -/
def CAS_PROTO_INDICATOR : UInt8 := 0x40

/-- The version of the protocol. -/
def CAS_PROTOCOL_VERSION : UInt8 := 7

/-- The version, marked. -/
def CAS_VERSION : UInt8 := CAS_PROTO_INDICATOR ||| CAS_PROTOCOL_VERSION

/-- The size of the answer of the broker. -/
def BROKER_RESPONSE_SIZE : ℕ := 4

/-! ### The model -/

/-- Build the request that the broker is sent. -/
def writeClientInfoExchange : List UInt8 :=
  BROKER_MAGIC ++ [CLIENT_TYPE_JDBC, CAS_VERSION, 0, 0, 0]

/-- Parse the answer of the broker. -/
def parseClientInfoExchange (data : { bs : List UInt8 // bs.length = BROKER_RESPONSE_SIZE }) :
    Int32 := intOfBytes data.1

/-- The calls that make connections, and use the one that was made last. A state is that of the
network, as it is seen through this connection. -/
class Dial (τ : Type) extends Socket τ where
  /-- Connect to an address, and set the options of the socket; the timeout is in seconds, and
  zero stands for none. -/
  connect : (addr : String) → (timeout : UInt64) → τ → Except IoError Unit × τ

/-- An address, as it is dialled. -/
def address (host : String) (port : UInt16) : String := host ++ ":" ++ toString port.toNat

/-- The cast of an `i32` to `u16`, which cuts off the upper half. -/
def asU16 (v : Int32) : UInt16 := UInt16.ofNat (v.toInt % 2 ^ 16).toNat

section Connect

variable {τ : Type} [Dial τ]

/-- Connect to a host and a port. The CAS info token is reset. -/
def Connection.connectTo (host : String) (port : UInt16) (timeout : UInt64) :
    Prog (Connection τ) Error Unit := fun conn =>
  let (result, stream) := Dial.connect (address host port) timeout conn.stream
  some (ofIo result, ⟨stream, (0, 0, 0, 0)⟩)

/-- Connect to the broker of a data source. -/
def Connection.connect (dsn : Dsn) : Prog (Connection τ) Error Unit :=
  connectTo dsn.host dsn.port dsn.timeout

/-- Write raw bytes, which have no frame. -/
def Connection.writeRaw (data : List UInt8) : Prog (Connection τ) Error Unit := fun conn =>
  let (result, stream) := Socket.writeAll data conn.stream
  some (ofIo result, { conn with stream })

/-- Send the credentials, which have no frame, and receive the response, which has one. -/
def Client.openDatabase (dsn : Dsn) : Prog (Connection τ) Error (Client τ) := do
  writeRaw (writeOpenDatabase dsn.database dsn.user dsn.password)
  let responseData ← recvFramed
  let result ← Prog.lift ((parseOpenDatabase responseData).mapErr .protocol)
  Prog.modify fun conn => { conn with casInfo := result.casInfo }
  let conn ← Prog.get
  return { conn := some conn, autoCommit := dsn.autoCommit, protoVersion := result.protoVersion }

/-- Connect to a data source. The connection of the client is the one that is left. -/
def Client.connectWithDsn (dsn : Dsn) : Prog (Connection τ) Error (Client τ) := do
  Connection.connect dsn
  writeRaw writeClientInfoExchange
  let portBytes ← readExactBytes BROKER_RESPONSE_SIZE
  let redirectPort := parseClientInfoExchange portBytes
  if redirectPort < 0 then
    Prog.throw (.serverError redirectPort "broker rejected connection")
  else do
    if redirectPort > 0 then connectTo dsn.host (asU16 redirectPort) dsn.timeout else pure ()
    Client.openDatabase dsn

/-- Connect to a data source that goes by its name. -/
def Client.connect (dsn : String) : Prog (Connection τ) Error (Client τ) := do
  let parsed ← Prog.lift ((Dsn.parse dsn).mapErr .invalidDsn)
  Client.connectWithDsn parsed

end Connect

theorem Client.connect_eq {τ : Type} [Dial τ] {text : String} {dsn : Dsn}
    (h : Dsn.parse text = .ok dsn) :
    (Client.connect text : Prog (Connection τ) Error (Client τ)) = Client.connectWithDsn dsn := by
  rw [Client.connect, h]
  rfl

/-! ### Peers -/

/-- What happens on the network. -/
inductive Contact
  /-- A connection has been made. -/
  | dialled (addr : String) (timeout : UInt64)
  /-- Bytes have been written. -/
  | wrote (data : List UInt8)
  /-- Bytes have been read. -/
  | read (data : List UInt8)
  /-- A call has failed. -/
  | failed (e : IoError)
  deriving DecidableEq

/-- How the rest of the world behaves, depending on what has happened so far. -/
structure Peer where
  /-- What becomes of an attempt to connect. -/
  connect : List Contact → (addr : String) → (timeout : UInt64) → Except IoError Unit
  /-- What becomes of bytes that are written. -/
  write : List Contact → List UInt8 → Except IoError Unit
  /-- What is read. -/
  read : List Contact → (count : ℕ) → Except IoError { bs : List UInt8 // bs.length = count }

/-- The network, and what has happened on it. -/
structure Recorded where
  /-- The rest of the world. -/
  peer : Peer
  /-- What has happened so far. -/
  log : List Contact

namespace Recorded

/-- Something has happened. -/
def add (s : Recorded) (contact : Contact) : Recorded := { s with log := s.log ++ [contact] }

/-- The result of a call, which is put down. -/
def note {α : Type} (s : Recorded) (contact : α → Contact) (result : Except IoError α) :
    Except IoError α × Recorded :=
  (result, s.add (match result with
    | .ok a => contact a
    | .error e => .failed e))

instance : Dial Recorded where
  writeAll data s := s.note (fun _ => .wrote data) (s.peer.write s.log data)
  readExact count s := s.note (fun bs => .read bs.1) (s.peer.read s.log count)
  connect addr timeout s := s.note (fun _ => .dialled addr timeout)
    (s.peer.connect s.log addr timeout)

/-- A call on a connection succeeds, with a value and a token, or it fails; either is put
down. -/
def Notes {α : Type} (p : Prog (Connection Recorded) Error α) (contact : α → Contact) : Prop :=
  ∀ conn, (∃ a casInfo, p conn = some (.ok a, ⟨conn.stream.add (contact a), casInfo⟩)) ∨
    ∃ e casInfo, p conn = some (.err (.io e), ⟨conn.stream.add (.failed e), casInfo⟩)

theorem notes_of_note {α : Type} {p : Prog (Connection Recorded) Error α} {contact : α → Contact}
    (h : ∀ conn, ∃ result casInfo, p conn = some (ofIo (conn.stream.note contact result).1,
      ⟨(conn.stream.note contact result).2, casInfo⟩)) :
    Notes p contact := by
  intro conn
  obtain ⟨result, casInfo, hp⟩ := h conn
  cases result with
  | ok a => exact Or.inl ⟨a, casInfo, hp⟩
  | error e => exact Or.inr ⟨e, casInfo, hp⟩

theorem notes_connectTo (host : String) (port : UInt16) (timeout : UInt64) :
    Notes (connectTo host port timeout) fun _ => .dialled (address host port) timeout :=
  notes_of_note fun _ => ⟨_, _, rfl⟩

theorem notes_writeRaw (data : List UInt8) : Notes (writeRaw data) fun _ => .wrote data :=
  notes_of_note fun _ => ⟨_, _, rfl⟩

theorem notes_readExactBytes (count : ℕ) :
    Notes (readExactBytes count) fun bs => .read bs.1 :=
  notes_of_note fun _ => ⟨_, _, rfl⟩

/-! ### The script -/

/-- The first exchange, with the broker. -/
def greeting (dsn : Dsn) (answer : List UInt8) : List Contact :=
  [.dialled (address dsn.host dsn.port) dsn.timeout, .wrote writeClientInfoExchange, .read answer]

/-- The host is dialled again if the broker says so. -/
def redial (dsn : Dsn) (redirectPort : Int32) : List Contact :=
  if redirectPort > 0 then [.dialled (address dsn.host (asU16 redirectPort)) dsn.timeout] else []

/-- The credentials, as they are sent. -/
def credentials (dsn : Dsn) : List UInt8 :=
  writeOpenDatabase dsn.database dsn.user dsn.password

/-- All that happens when a client connects. -/
def script (dsn : Dsn) (answer header data : List UInt8) : List Contact :=
  greeting dsn answer ++ redial dsn (intOfBytes answer) ++
    [.wrote (credentials dsn), .read header, .read data]

/-- What has happened when a client is done, and what came of it. -/
inductive Ended (dsn : Dsn) (conn : Connection Recorded) : Outcome Error (Client Recorded) → Prop
  /-- The broker has refused the client. -/
  | refused {answer : List UInt8} (hneg : intOfBytes answer < 0)
      (hlog : conn.stream.log = greeting dsn answer) :
      Ended dsn conn (.err (.serverError (intOfBytes answer) "broker rejected connection"))
  /-- A call has failed, and it was the last one. -/
  | failed {answer header data : List UInt8} {before after : List Contact} {contact : Contact}
      {e : IoError} (hnonneg : 0 ≤ intOfBytes answer)
      (hscript : script dsn answer header data = before ++ contact :: after)
      (hlog : conn.stream.log = before ++ [.failed e]) : Ended dsn conn (.err (.io e))
  /-- The response to the credentials is no good. -/
  | rejected {answer header : List UInt8} {data : Bytes} {e : ProtocolError}
      (hnonneg : 0 ≤ intOfBytes answer) (hlog : conn.stream.log = script dsn answer header data.1)
      (hparse : parseOpenDatabase data = .err e) : Ended dsn conn (.err (.protocol e))
  /-- The client is connected, with the token and the version that it was sent. -/
  | opened {answer header : List UInt8} {data : Bytes} {r : OpenDatabaseResult}
      (hnonneg : 0 ≤ intOfBytes answer) (hlog : conn.stream.log = script dsn answer header data.1)
      (hparse : parseOpenDatabase data = .ok r) (hcasInfo : conn.casInfo = r.casInfo) :
      Ended dsn conn (.ok ⟨some conn, dsn.autoCommit, r.protoVersion⟩)

/-- A call is put down, or it ends the whole; what has happened before is a part of the script,
but not all of it. -/
theorem ended_bind {α : Type} {dsn : Dsn} {answer header data : List UInt8}
    {before after : List Contact} {next : Contact} {p : Prog (Connection Recorded) Error α}
    {f : α → Prog (Connection Recorded) Error (Client Recorded)} {contact : α → Contact}
    {conn : Connection Recorded} (hlog : conn.stream.log = before) (hnotes : Notes p contact)
    (hnonneg : 0 ≤ intOfBytes answer)
    (hscript : script dsn answer header data = before ++ next :: after)
    (hf : ∀ a conn', conn'.stream.log = before ++ [contact a] →
      ∃ x conn'', f a conn' = some (x, conn'') ∧ Ended dsn conn'' x) :
    ∃ x conn'', (p >>= f) conn = some (x, conn'') ∧ Ended dsn conn'' x := by
  rcases hnotes conn with ⟨a, casInfo, hp⟩ | ⟨e, casInfo, hp⟩
  · rw [bind_ok hp]
    exact hf a _ (by rw [add, hlog])
  · exact ⟨_, _, bind_err hp, .failed hnonneg hscript (by rw [add, hlog])⟩

/-- The credentials are sent, and the response decides. -/
theorem openDatabase_ended {dsn : Dsn} {answer : List UInt8} (hnonneg : 0 ≤ intOfBytes answer)
    {conn : Connection Recorded}
    (hlog : conn.stream.log = greeting dsn answer ++ redial dsn (intOfBytes answer)) :
    ∃ x conn', Client.openDatabase dsn conn = some (x, conn') ∧ Ended dsn conn' x := by
  have hscript (header data : List UInt8) : script dsn answer header data =
      greeting dsn answer ++ redial dsn (intOfBytes answer) ++ [.wrote (credentials dsn)] ++
        .read header :: [.read data] := by
    rw [script, List.append_assoc _ [_]]
    rfl
  refine @ended_bind _ dsn answer [] [] _ _ _ _ _ _ _ hlog (notes_writeRaw _) hnonneg rfl
    fun _ conn hlog => ?_
  rw [recvFramed, bind_assoc]
  refine ended_bind hlog (notes_readExactBytes _) hnonneg (hscript [] []) fun header conn hlog => ?_
  rw [bind_assoc]
  have hscript' : script dsn answer header.1 [] =
      greeting dsn answer ++ redial dsn (intOfBytes answer) ++ [.wrote (credentials dsn)] ++
        [.read header.1] ++ .read [] :: [] := by
    rw [hscript, List.append_assoc (_ ++ [_]) [_]]
    rfl
  refine ended_bind hlog (notes_readExactBytes _) hnonneg hscript' fun data conn hlog => ?_
  have hlog : conn.stream.log = script dsn answer header.1 data.1 := by
    rw [hlog, hscript, List.append_assoc (_ ++ [_]) [_]]
    rfl
  rw [pure_bind]
  generalize hdata : (⟨data.1, _⟩ : Bytes) = response
  have hlog : conn.stream.log = script dsn answer header.1 response.1 := by
    rw [hlog, ← hdata]
  cases hparse : parseOpenDatabase response with
  | ok r => exact ⟨_, { conn with casInfo := r.casInfo }, rfl, .opened hnonneg hlog hparse rfl⟩
  | err e => exact ⟨_, conn, rfl, .rejected hnonneg hlog hparse⟩
  | panic => exact absurd hparse (parseOpenDatabase_ne_panic _)

/-- **What happens when a client connects**, whatever the rest of the world does: the script,
or a part of it that ends in a refusal or in a call that fails. -/
theorem connectWithDsn_ended (dsn : Dsn) (peer : Peer) (casInfo : CasInfo) :
    ∃ x conn, Client.connectWithDsn dsn ⟨⟨peer, []⟩, casInfo⟩ = some (x, conn) ∧
      Ended dsn conn x := by
  have hzero : 0 ≤ intOfBytes [0, 0, 0, 0] := by decide
  refine @ended_bind _ dsn [0, 0, 0, 0] [] [] [] _ _ _ _ _ _ rfl (notes_connectTo _ _ _) hzero rfl
    fun _ conn hlog => ?_
  refine @ended_bind _ dsn [0, 0, 0, 0] [] [] _ _ _ _ _ _ _ hlog (notes_writeRaw _) hzero rfl
    fun _ conn hlog => ?_
  refine @ended_bind _ dsn [0, 0, 0, 0] [] [] _ _ _ _ _ _ _ hlog (notes_readExactBytes _) hzero rfl
    fun answer conn hlog => ?_
  have hlog : conn.stream.log = greeting dsn answer.1 := hlog
  by_cases hneg : parseClientInfoExchange answer < 0
  · rw [if_pos hneg]
    exact ⟨_, conn, rfl, .refused hneg hlog⟩
  have hnonneg : 0 ≤ intOfBytes answer.1 := Int32.not_lt.mp hneg
  rw [if_neg hneg]
  by_cases hredirect : parseClientInfoExchange answer > 0
  · rw [if_pos hredirect]
    have hredial : redial dsn (intOfBytes answer.1) =
        [.dialled (address dsn.host (asU16 (intOfBytes answer.1))) dsn.timeout] :=
      if_pos hredirect
    have hscript : script dsn answer.1 [] [] = greeting dsn answer.1 ++
        .dialled (address dsn.host (asU16 (intOfBytes answer.1))) dsn.timeout ::
          [.wrote (credentials dsn), .read [], .read []] := by
      rw [script, hredial, List.append_assoc]
      rfl
    refine ended_bind hlog (notes_connectTo _ _ _) hnonneg hscript fun _ conn hlog => ?_
    refine openDatabase_ended hnonneg ?_
    rw [hlog, hredial]
    rfl
  · rw [if_neg hredirect]
    refine openDatabase_ended hnonneg ?_
    rw [hlog, show redial dsn (intOfBytes answer.1) = [] from if_neg hredirect, List.append_nil]

/-! ### What is sent -/

/-- Up to the credentials, the only thing that is written is the first request. -/
theorem wrote_of_mem {dsn : Dsn} {answer data : List UInt8} {log : List Contact}
    (hlog : log <+: greeting dsn answer ++ redial dsn (intOfBytes answer))
    (hmem : .wrote data ∈ log) : data = writeClientInfoExchange := by
  rcases List.mem_append.mp (hlog.subset hmem) with hmem | hmem
  · simpa [greeting] using hmem
  · rw [redial] at hmem
    split at hmem <;> simp at hmem

/-- The bytes may be written: they are the first request, or the credentials, and before these
the broker has agreed and the host has been dialled where it said. -/
def MayWrite (dsn : Dsn) (log : List Contact) (data : List UInt8) : Prop :=
  data = writeClientInfoExchange ∨ data = credentials dsn ∧ ∃ answer, 0 ≤ intOfBytes answer ∧
    greeting dsn answer ++ redial dsn (intOfBytes answer) ++ [.wrote data] <+: log

theorem MayWrite.mono {dsn : Dsn} {log log' : List Contact} {data : List UInt8}
    (h : MayWrite dsn log data) (hlog : log <+: log') : MayWrite dsn log' data :=
  h.imp_right fun ⟨hdata, answer, hnonneg, hprefix⟩ =>
    ⟨hdata, answer, hnonneg, hprefix.trans hlog⟩

/-- The credentials follow the answer of the broker. -/
theorem mayWrite_in_script {dsn : Dsn} {answer header response data : List UInt8}
    {log : List Contact} (hnonneg : 0 ≤ intOfBytes answer)
    (hlog : log <+: script dsn answer header response) (hmem : .wrote data ∈ log) :
    MayWrite dsn log data := by
  have hscript : script dsn answer header response =
      greeting dsn answer ++ redial dsn (intOfBytes answer) ++ [.wrote (credentials dsn)] ++
        [.read header, .read response] := by
    rw [script, List.append_assoc _ [_]]
    rfl
  have hsent : greeting dsn answer ++ redial dsn (intOfBytes answer) ++
      [Contact.wrote (credentials dsn)] <+: script dsn answer header response :=
    ⟨_, hscript.symm⟩
  -- the log goes beyond the credentials, or it does not
  rcases List.prefix_or_prefix_of_prefix hsent hlog with hbeyond | hshort
  · rw [hscript] at hlog
    rcases List.mem_append.mp (hlog.subset hmem) with hmem | hmem
    · rcases List.mem_append.mp hmem with hmem | hmem
      · exact Or.inl (wrote_of_mem List.prefix_rfl hmem)
      · obtain rfl := Contact.wrote.inj (List.mem_singleton.mp hmem)
        exact Or.inr ⟨rfl, answer, hnonneg, hbeyond⟩
    · simp at hmem
  · rcases List.prefix_concat_iff.mp hshort with rfl | hbefore
    · rcases List.mem_append.mp hmem with hmem | hmem
      · exact Or.inl (wrote_of_mem List.prefix_rfl hmem)
      · obtain rfl := Contact.wrote.inj (List.mem_singleton.mp hmem)
        exact Or.inr ⟨rfl, answer, hnonneg, List.prefix_rfl⟩
    · exact Or.inl (wrote_of_mem hbefore hmem)

theorem Ended.mayWrite {dsn : Dsn} {conn : Connection Recorded}
    {x : Outcome Error (Client Recorded)} (h : Ended dsn conn x) {data : List UInt8}
    (hmem : .wrote data ∈ conn.stream.log) : MayWrite dsn conn.stream.log data := by
  have hdone {answer header response : List UInt8} (hnonneg : 0 ≤ intOfBytes answer)
      (hlog : conn.stream.log = script dsn answer header response) :
      MayWrite dsn conn.stream.log data :=
    @mayWrite_in_script dsn answer header response _ _ hnonneg (hlog ▸ List.prefix_refl _) hmem
  cases h with
  | @refused answer hneg hlog =>
    rw [hlog] at hmem
    exact Or.inl (wrote_of_mem (List.prefix_append _ _) hmem)
  | @failed answer header response before after contact e hnonneg hscript hlog =>
    rw [hlog] at hmem ⊢
    rcases List.mem_append.mp hmem with hmem | hmem
    · have hmay := mayWrite_in_script hnonneg (hscript ▸ List.prefix_append before _) hmem
      exact hmay.mono (List.prefix_append _ _)
    · simp at hmem
  | rejected hnonneg hlog hparse => exact hdone hnonneg hlog
  | opened hnonneg hlog hparse hcasInfo => exact hdone hnonneg hlog

/-- **What happens when a client connects to a data source that goes by its name.** A name that
is not well formed is refused, and nothing happens. Otherwise, whatever the rest of the world
does, the script is followed up to its end, or to a refusal of the broker, or to a call that
fails, and the outcome says which of them it was; nothing but the first request is written
before the broker has agreed, and then nothing but the credentials. -/
theorem connect_ended (text : String) (peer : Peer) (casInfo : CasInfo) :
    ∃ x conn, Client.connect text ⟨⟨peer, []⟩, casInfo⟩ = some (x, conn) ∧
      (∀ message, Dsn.parse text = .err message →
        x = .err (.invalidDsn message) ∧ conn.stream.log = []) ∧
      ∀ dsn, Dsn.parse text = .ok dsn → Ended dsn conn x ∧
        ∀ data, .wrote data ∈ conn.stream.log → MayWrite dsn conn.stream.log data := by
  rw [Client.connect]
  cases hparse : Dsn.parse text with
  | ok dsn =>
    obtain ⟨x, conn, hrun, hended⟩ := connectWithDsn_ended dsn peer casInfo
    refine ⟨x, conn, hrun, nofun, ?_⟩
    rintro dsn' hdsn
    obtain rfl := Outcome.ok.inj hdsn
    exact ⟨hended, fun data => hended.mayWrite⟩
  | err message =>
    refine ⟨_, ⟨⟨peer, []⟩, casInfo⟩, rfl, ?_, nofun⟩
    rintro message' hmessage
    obtain rfl := Outcome.err.inj hmessage
    exact ⟨rfl, rfl⟩
  | panic => exact absurd hparse (Dsn.parse_ne_panic text)

end Recorded

/-! ### What is opened -/

namespace Credentials

open Recorded

variable {c : Credentials} {dsn : Dsn}

/-- What a client says first does not open a database: it is too short. -/
theorem request_ne_writeClientInfoExchange : c.request ≠ writeClientInfoExchange := by
  intro h
  have hlen : writeClientInfoExchange.length = DB_OPEN_PAYLOAD_SIZE := h ▸ c.length_request
  exact absurd hlen (by decide)

/-- **What is sent to connect to a data source** with these credentials, whatever the rest of
the world does: nothing but the first request and the request for the credentials, and the
latter whenever a connection is opened. -/
theorem wrote_connectWithDsn (hdsn : c.texts = [dsn.database, dsn.user, dsn.password])
    (peer : Peer) (casInfo : CasInfo) :
    ∃ x, ∃ conn : Connection Recorded,
      Client.connectWithDsn dsn ⟨⟨peer, []⟩, casInfo⟩ = some (x, conn) ∧
      (∀ data, .wrote data ∈ conn.stream.log →
        data = writeClientInfoExchange ∨ data = c.request) ∧
      ∀ client, x = .ok client → .wrote c.request ∈ conn.stream.log := by
  have hrequest : c.request = credentials dsn := by
    obtain ⟨hdatabase, hdsn⟩ := List.cons.inj hdsn
    obtain ⟨huser, hdsn⟩ := List.cons.inj hdsn
    obtain ⟨hpassword, -⟩ := List.cons.inj hdsn
    rw [request, credentials, hdatabase, huser, hpassword]
  obtain ⟨x, conn, hrun, hended⟩ := connectWithDsn_ended dsn peer casInfo
  refine ⟨x, conn, hrun, fun data hmem => ?_, ?_⟩
  · rw [hrequest]
    exact (hended.mayWrite hmem).imp_right And.left
  · rintro client rfl
    cases hended with
    | opened hnonneg hlog hparse hcasInfo =>
      rw [hlog, hrequest, script]
      exact List.mem_append_right _ List.mem_cons_self

/-- **What the request says of the credentials.** It has 628 bytes, and each field, read
up to its first zero, holds the first 32 bytes of its string: the whole string, if it fits.
So two requests are the same when the strings start alike, and credentials that fit are
never confused.

To connect to a data source, the request for its database, its user and its password is sent,
and no request for others whose strings do not start alike. -/
theorem request_spec (c : Credentials) :
    c.request.length = 628 ∧ (fields c.request).map fieldText = c.sent ∧
      (c.Fits → (fields c.request).map fieldText = c.texts.map Utf8.encode) ∧
      (∀ c' : Credentials, (c.request = c'.request ↔ c.sent = c'.sent) ∧
        (c.Fits → c'.Fits → c.request = c'.request → c.texts = c'.texts)) ∧
      ∀ dsn : Dsn, c.texts = [dsn.database, dsn.user, dsn.password] → ∀ peer casInfo,
        ∃ x, ∃ conn : Connection Recorded,
          Client.connectWithDsn dsn ⟨⟨peer, []⟩, casInfo⟩ = some (x, conn) ∧
          (∀ data, .wrote data ∈ conn.stream.log →
            data = writeClientInfoExchange ∨ data = c.request) ∧
          (∀ client, x = .ok client → .wrote c.request ∈ conn.stream.log) ∧
          ∀ c' : Credentials, .wrote c'.request ∈ conn.stream.log →
            c'.sent = c.sent ∧ (c.Fits → c'.Fits → c'.texts = c.texts) := by
  refine ⟨c.length_request, c.map_fieldText_fields, fun h => c.map_fieldText_fields.trans h.sent_eq,
    fun c' => ⟨request_eq_iff c c', Fits.inj⟩, fun dsn hdsn peer casInfo => ?_⟩
  obtain ⟨x, conn, hrun, hwrote, hopened⟩ := wrote_connectWithDsn hdsn peer casInfo
  refine ⟨x, conn, hrun, hwrote, hopened, fun c' hmem => ?_⟩
  have heq : c'.request = c.request :=
    (hwrote _ hmem).resolve_left request_ne_writeClientInfoExchange
  exact ⟨(request_eq_iff c' c).mp heq, fun hc hc' => hc'.inj hc heq⟩

/-- A broker that keeps the connection, and a server that lets everybody in. -/
def welcome : Peer where
  connect _ _ _ := .ok ()
  write _ _ := .ok ()
  -- the fifth thing that happens is that the length of the server's response is read
  read log count :=
    if h : log.length = 4 ∧ count = 4 then .ok ⟨[0, 0, 0, 24], h.2.symm⟩
    else .ok ⟨List.replicate count 0, List.length_replicate⟩

/-- The data source of the credentials that fit. -/
def shortDsn : Dsn := { Dsn.default with database := shortName.database, user := shortName.user }

/-- The connection is opened, for these credentials, and for no others that fit. -/
theorem request_spec_shortName : shortName.Fits ∧
    (fields shortName.request).map fieldText = shortName.texts.map Utf8.encode ∧
    ∃ client, ∃ conn : Connection Recorded,
      Client.connectWithDsn shortDsn ⟨⟨welcome, []⟩, (0, 0, 0, 0)⟩ = some (.ok client, conn) ∧
      .wrote shortName.request ∈ conn.stream.log ∧
      ∀ c' : Credentials, c'.Fits → .wrote c'.request ∈ conn.stream.log →
        c'.texts = shortName.texts := by
  have hfits : shortName.Fits := by decide
  obtain ⟨-, -, hfields, -, hconnect⟩ := request_spec shortName
  obtain ⟨x, conn, hrun, -, hopened, honly⟩ := hconnect shortDsn rfl welcome (0, 0, 0, 0)
  obtain ⟨client, conn', hclient⟩ : ∃ client, ∃ conn' : Connection Recorded,
      Client.connectWithDsn shortDsn ⟨⟨welcome, []⟩, (0, 0, 0, 0)⟩ = some (.ok client, conn') :=
    ⟨_, _, rfl⟩
  obtain ⟨rfl, rfl⟩ := Prod.mk.inj (Option.some.inj (hrun.symm.trans hclient))
  exact ⟨hfits, hfields hfits, client, conn, hrun, hopened client rfl,
    fun c' hc' hmem => (honly c' hmem).2 hfits hc'⟩

end Credentials

end CubridDriver
