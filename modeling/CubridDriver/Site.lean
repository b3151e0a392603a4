import CubridDriver.Framing
import CubridDriver.Handshake
import CubridDriver.Transparent

/-!
# A site

A concrete network: a broker that listens at an address, accounts it knows nothing of, and a
server behind it, which lets a client in when its account is a good one. The broker keeps the
connection or sends the client to another port of the host.

Once a client has been let in, the server is behind the socket (`CubridDriver.Visit.behind`), and
a client that dials the site with a good account is let in (`CubridDriver.Visit.connect_ok`).
-/

namespace CubridDriver

open Prog Connection PacketWriter

/-! ### Sites -/

/-- A broker, and a server behind it. -/
structure Site {δ : Type} (S : Server δ) where
  /-- The host. -/
  host : String
  /-- The port of the broker. -/
  port : UInt16
  /-- The port clients are sent to; zero if they are not sent anywhere. -/
  casPort : UInt16
  casPort_ne : casPort ≠ port
  /-- Whether an account is good: a database, a user and a password. -/
  admits : List (List UInt8) → Bool
  /-- The CAS info token a client starts with. -/
  casInfo : CasInfo
  /-- The number of the session. -/
  sessionId : Int32
  /-- The response to a good account. -/
  welcome : Frame
  welcome_mem : welcome.data ∈ openDatabaseFormat ⟨casInfo, S.protoVersion, sessionId⟩
  /-- The code of the error of a bad account. -/
  code : Int32
  /-- The message of that error. -/
  message : String
  /-- The response to a bad account. -/
  refusal : Frame
  refusal_eq : ∃ casInfo responseCode, ∃ text ∈ textFormat message, responseCode < 0 ∧
    refusal.data = refusalBytes casInfo responseCode code text

/-- How far a client has got. -/
inductive Phase
  /-- There is no connection. -/
  | away
  /-- It is connected to the broker. -/
  | broker
  /-- It is connected to the server, and has not said who it is. -/
  | cas
  /-- It has been let in. -/
  | serving
  deriving DecidableEq

/-- A network with a site on it, as a client sees it. -/
structure Visit {δ : Type} {S : Server δ} (site : Site S) where
  /-- How far the client has got. -/
  phase : Phase
  /-- The state of the server. -/
  db : δ
  /-- What has been answered, and not been read. -/
  inbox : List UInt8

/-- Who a client says it is, as far as the fields of the request hold it. -/
def Dsn.account (dsn : Dsn) : List (List UInt8) :=
  [dsn.database, dsn.user, dsn.password].map fun s => (Utf8.encode s).take 32

namespace Visit

variable {δ : Type} {S : Server δ} {site : Site S}

/-- A call is made. -/
def answer (v : Visit site) : Call → Visit site
  | .conClose => { v with db := (S.call .conClose v.db).2 }
  | c => ⟨v.phase, (S.call c v.db).2, v.inbox ++ (S.reply c v.db).bytes⟩

/-- Something is written. What is not understood is not answered. -/
def write (data : List UInt8) (v : Visit site) : Visit site :=
  match v.phase with
  | .away => v
  | .broker =>
      if data = writeClientInfoExchange then
        ⟨if site.casPort = 0 then .cas else .broker, v.db,
          v.inbox ++ writeInt (Int32.ofNat site.casPort.toNat)⟩
      else v
  | .cas =>
      if site.admits ((Credentials.fields data).map fieldText) then
        ⟨.serving, v.db, v.inbox ++ site.welcome.bytes⟩
      else ⟨.cas, v.db, v.inbox ++ site.refusal.bytes⟩
  | .serving => ((readRequest data).map fun x => v.answer x.2).getD v

/-- A connection is made, to the broker or to the server; nobody listens elsewhere. -/
def dial (addr : String) (v : Visit site) : Except IoError Unit × Visit site :=
  if addr = address site.host site.port then (.ok (), ⟨.broker, v.db, []⟩)
  else if addr = address site.host site.casPort then (.ok (), ⟨.cas, v.db, []⟩)
  else (.error .brokenPipe, v)

instance : Dial (Visit site) where
  writeAll data v := (.ok (), v.write data)
  readExact count v := ((ByteStream.readExact count ⟨v.inbox⟩).1,
    { v with inbox := (ByteStream.readExact count ⟨v.inbox⟩).2.bytes })
  connect addr _ v := v.dial addr

/-! ### Reading -/

theorem readExactBytes_append {conn : Connection (Visit site)} {count : ℕ} {bs tail : List UInt8}
    (h : bs.length = count) (hinbox : conn.stream.inbox = bs ++ tail) :
    readExactBytes count conn =
      some (.ok ⟨bs, h⟩, { conn with stream := { conn.stream with inbox := tail } }) := by
  have hread : Socket.readExact count conn.stream =
      (.ok ⟨bs, h⟩, { conn.stream with inbox := tail }) := by
    change ((ByteStream.readExact count ⟨conn.stream.inbox⟩).1,
      { conn.stream with inbox := (ByteStream.readExact count ⟨conn.stream.inbox⟩).2.bytes }) = _
    rw [hinbox, ByteStream.readExact_append tail h]
  rw [readExactBytes, hread]
  rfl

/-- **A frame is received**, and what follows is left. -/
theorem recvFramed_frame {conn : Connection (Visit site)} (frame : Frame) {tail : List UInt8}
    (hinbox : conn.stream.inbox = frame.bytes ++ tail) :
    recvFramed conn = some (.ok frame.response,
      { conn with stream := { conn.stream with inbox := tail } }) := by
  have hlength : (BigEndian.encode 4 frame.body.length).length = 4 := BigEndian.length_encode _ _
  have hdata : frame.data.length =
      BigEndian.decode (BigEndian.encode 4 frame.body.length) + SIZE_CAS_INFO := by
    rw [BigEndian.decode_encode frame.length_lt, Frame.length_data]
  rw [Frame.bytes, List.append_assoc] at hinbox
  rw [recvFramed, bind_ok (readExactBytes_append hlength hinbox),
    bind_ok (readExactBytes_append hdata rfl)]
  rfl

/-! ### With the server -/

theorem answer_eq {c : Call} (h : c ≠ .conClose) (v : Visit site) :
    v.answer c = ⟨v.phase, (S.call c v.db).2, v.inbox ++ (S.reply c v.db).bytes⟩ := by
  cases c with
  | conClose => exact absurd rfl h
  | _ => rfl

/-- A client that has been let in is understood. -/
theorem write_serving {v : Visit site} (hphase : v.phase = .serving) {data : List UInt8}
    {token : CasInfo} {c : Call} (h : readRequest data = some (token, c)) :
    v.write data = v.answer c := by
  rw [write, hphase]
  change ((readRequest data).map fun x => v.answer x.2).getD v = _
  rw [h]
  rfl

/-- **The server is behind the socket** of a client that has been let in. -/
theorem behind (site : Site S) :
    Behind S (fun db (v : Visit site) => v = ⟨.serving, db, []⟩) (fun db v => v.db = db) where
  exchange := by
    rintro db conn request token c hat hread hne
    have hwrite : conn.stream.write request =
        ⟨.serving, (S.call c db).2, (S.reply c db).bytes⟩ := by
      rw [write_serving (by rw [hat]) hread, answer_eq hne, hat]
      rfl
    refine ⟨{ conn with stream := ⟨.serving, (S.call c db).2, (S.reply c db).bytes⟩ },
      ⟨.serving, (S.call c db).2, []⟩, ?_, recvFramed_frame _ (List.append_nil _).symm, rfl⟩
    rw [sendFramed]
    change some (Outcome.ok (), { conn with stream := conn.stream.write request }) = _
    rw [hwrite]
  conClose := by
    rintro db v request token rfl hread
    change (write request (⟨.serving, db, []⟩ : Visit site)).db = _
    rw [write_serving rfl hread]
    rfl

/-! ### Being let in -/

/-- Addresses of one host are told apart by their ports. -/
theorem address_inj {host : String} {port port' : UInt16}
    (h : address host port = address host port') : port = port' := by
  have hlist := congrArg String.toList h
  simp only [address, String.toList_append, List.append_cancel_left_eq,
    Nat.toString_eq_ofList_toDigits, String.toList_ofList] at hlist
  have hnat := congrArg (fun digits => Nat.ofDigitChars 10 digits 0) hlist
  simp only [Nat.ofDigitChars_ten_toDigits] at hnat
  exact UInt16.toNat_inj.mp hnat

theorem toInt_port (port : UInt16) : (Int32.ofNat port.toNat).toInt = port.toNat :=
  Int32.toInt_ofNat_of_lt (Nat.lt_trans port.toNat_lt (by decide))

/-- A port comes back from the number it is sent as. -/
theorem asU16_port (port : UInt16) : asU16 (Int32.ofNat port.toNat) = port := by
  have hmod : ((port.toNat : ℤ) % 2 ^ 16).toNat = port.toNat := by
    have hlt := port.toNat_lt
    omega
  rw [asU16, toInt_port, hmod, UInt16.ofNat_toNat]

theorem port_pos_iff (port : UInt16) : Int32.ofNat port.toNat > 0 ↔ port ≠ 0 := by
  rw [gt_iff_lt, Int32.lt_iff_toInt_lt, toInt_port, ← UInt16.toNat_inj.ne]
  simp [Nat.pos_iff_ne_zero]

theorem port_nonneg (port : UInt16) : ¬Int32.ofNat port.toNat < 0 := by
  rw [Int32.lt_iff_toInt_lt, toInt_port]
  simp

/-- The credentials are read as they were meant, as far as their fields hold them. -/
theorem fields_credentials {dsn : Dsn} (hnul : ∀ s ∈ [dsn.database, dsn.user, dsn.password],
    '\x00' ∉ s.toList) :
    (Credentials.fields (writeOpenDatabase dsn.database dsn.user dsn.password)).map fieldText =
      dsn.account :=
  Credentials.map_fieldText_fields ⟨_, _, _, hnul⟩

section Connect

variable {dsn : Dsn} (hhost : dsn.host = site.host) (hport : dsn.port = site.port) {db : δ}
include hhost hport

/-- The broker is dialled, and tells where to go. Then the client is where it can say who it
is. -/
theorem connectWithDsn_eq (casInfo : CasInfo) :
    Client.connectWithDsn dsn (⟨⟨.away, db, []⟩, casInfo⟩ : Connection (Visit site)) =
      Client.openDatabase dsn ⟨⟨.cas, db, []⟩, (0, 0, 0, 0)⟩ := by
  have hdial : connectTo dsn.host dsn.port dsn.timeout
      (⟨⟨.away, db, []⟩, casInfo⟩ : Connection (Visit site)) =
        some (.ok (), ⟨⟨.broker, db, []⟩, (0, 0, 0, 0)⟩) := by
    have haddr : address dsn.host dsn.port = address site.host site.port := by rw [hhost, hport]
    change some (ofIo (dial _ _).1, (⟨(dial _ _).2, _⟩ : Connection (Visit site))) = _
    rw [dial, if_pos haddr]
    rfl
  have hask : writeRaw writeClientInfoExchange
      (⟨⟨.broker, db, []⟩, (0, 0, 0, 0)⟩ : Connection (Visit site)) =
        some (.ok (), ⟨⟨if site.casPort = 0 then .cas else .broker, db,
          writeInt (Int32.ofNat site.casPort.toNat)⟩, (0, 0, 0, 0)⟩) := rfl
  have hread : readExactBytes BROKER_RESPONSE_SIZE (⟨⟨if site.casPort = 0 then .cas else .broker,
      db, writeInt (Int32.ofNat site.casPort.toNat)⟩, (0, 0, 0, 0)⟩ : Connection (Visit site)) =
        some (.ok ⟨writeInt (Int32.ofNat site.casPort.toNat), length_writeInt _⟩,
          ⟨⟨if site.casPort = 0 then .cas else .broker, db, []⟩, (0, 0, 0, 0)⟩) :=
    readExactBytes_append _ (List.append_nil _).symm
  rw [Client.connectWithDsn, Connection.connect, bind_ok hdial, bind_ok hask, bind_ok hread,
    parseClientInfoExchange, intOfBytes_writeInt, if_neg (port_nonneg site.casPort)]
  by_cases hcas : site.casPort = 0
  · rw [if_neg (by rw [port_pos_iff]; exact not_not_intro hcas), if_pos hcas]
  · have hredial : connectTo dsn.host (asU16 (Int32.ofNat site.casPort.toNat)) dsn.timeout
        (⟨⟨if site.casPort = 0 then .cas else .broker, db, []⟩, (0, 0, 0, 0)⟩ :
          Connection (Visit site)) = some (.ok (), ⟨⟨.cas, db, []⟩, (0, 0, 0, 0)⟩) := by
      have hne : address dsn.host (asU16 (Int32.ofNat site.casPort.toNat)) ≠
          address site.host site.port := by
        rw [asU16_port, hhost]
        exact fun h => site.casPort_ne (address_inj h)
      have haddr : address dsn.host (asU16 (Int32.ofNat site.casPort.toNat)) =
          address site.host site.casPort := by rw [asU16_port, hhost]
      change some (ofIo (dial _ _).1, (⟨(dial _ _).2, _⟩ : Connection (Visit site))) = _
      rw [dial, if_neg hne, if_pos haddr]
      rfl
    rw [if_pos ((port_pos_iff _).mpr hcas), bind_ok hredial]

/-- **A client with a good account is let in**: then the server is behind its socket. -/
theorem connectWithDsn_ok (casInfo : CasInfo)
    (hnul : ∀ s ∈ [dsn.database, dsn.user, dsn.password], '\x00' ∉ s.toList)
    (hadmits : site.admits dsn.account = true) :
    Client.connectWithDsn dsn (⟨⟨.away, db, []⟩, casInfo⟩ : Connection (Visit site)) =
      some (.ok ⟨some ⟨⟨.serving, db, []⟩, site.casInfo⟩, dsn.autoCommit, S.protoVersion⟩,
        ⟨⟨.serving, db, []⟩, site.casInfo⟩) := by
  have hsend : writeRaw (writeOpenDatabase dsn.database dsn.user dsn.password)
      (⟨⟨.cas, db, []⟩, (0, 0, 0, 0)⟩ : Connection (Visit site)) =
        some (.ok (), ⟨⟨.serving, db, site.welcome.bytes⟩, (0, 0, 0, 0)⟩) := by
    have hgood := (congrArg site.admits (fields_credentials hnul)).trans hadmits
    change some (Outcome.ok (), (⟨if _ then _ else _, _⟩ : Connection (Visit site))) = _
    rw [if_pos hgood]
    rfl
  have hparse : parseOpenDatabase site.welcome.response = _ :=
    ResponseParser.run_of_mem .openDatabase site.welcome_mem
  rw [connectWithDsn_eq hhost hport, Client.openDatabase, bind_ok hsend,
    bind_ok (recvFramed_frame _ (List.append_nil _).symm), hparse]
  rfl

/-- A client with a bad account is told so. -/
theorem connectWithDsn_err (casInfo : CasInfo)
    (hnul : ∀ s ∈ [dsn.database, dsn.user, dsn.password], '\x00' ∉ s.toList)
    (hadmits : site.admits dsn.account = false) :
    Client.connectWithDsn dsn (⟨⟨.away, db, []⟩, casInfo⟩ : Connection (Visit site)) =
      some (.err (.protocol (.serverError site.code site.message)),
        ⟨⟨.cas, db, []⟩, (0, 0, 0, 0)⟩) := by
  have hsend : writeRaw (writeOpenDatabase dsn.database dsn.user dsn.password)
      (⟨⟨.cas, db, []⟩, (0, 0, 0, 0)⟩ : Connection (Visit site)) =
        some (.ok (), ⟨⟨.cas, db, site.refusal.bytes⟩, (0, 0, 0, 0)⟩) := by
    have hbad := (congrArg site.admits (fields_credentials hnul)).trans hadmits
    change some (Outcome.ok (), (⟨if _ then _ else _, _⟩ : Connection (Visit site))) = _
    rw [if_neg (by rw [hbad]; exact Bool.false_ne_true)]
    rfl
  obtain ⟨token, responseCode, text, htext, hneg, hdata⟩ := site.refusal_eq
  have hparse : parseOpenDatabase site.refusal.response = serverErrorOf site.code text :=
    ResponseParser.run_refusal .openDatabase hneg hdata
  rw [connectWithDsn_eq hhost hport, Client.openDatabase, bind_ok hsend,
    bind_ok (recvFramed_frame _ (List.append_nil _).symm), hparse, serverErrorOf_text _ htext]
  rfl

end Connect

end Visit

end CubridDriver
