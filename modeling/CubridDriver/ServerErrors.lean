import CubridDriver.Lib.Cut
import CubridDriver.NoPanic

/-!
# Errors of the server

A response that announces an error carries a code and a message, and every parser hands
it to the same function, `CubridDriver.failWithServerError`. The code is read first, but
the error is built from both, and the message has to be valid UTF-8. A server may send it
in another charset.

`CubridDriver.ResponseParser.reports_iff` says what this amounts to, for all parsers at
once: the error of the server is reported exactly when its message is valid UTF-8. Where
it is not, the code is lost (`CubridDriver.ResponseParser.run_refusal`).
-/

namespace CubridDriver

open Checked PacketReader PacketWriter

/-! ### Messages

The null characters at the end of a message are stripped before the rest is decoded. This
does not change which messages can be decoded: a null character is a byte of its own. -/

theorem stripNulls_eq (raw : List UInt8) : stripNulls raw = raw.rdropWhile (· = 0) := rfl

theorem exists_stripNulls_append (raw : List UInt8) :
    ∃ n, raw = stripNulls raw ++ List.replicate n 0 :=
  List.exists_rdropWhile_append_replicate 0 raw

/-- What is left of a text is a text. -/
theorem exists_encode_eq_stripNulls (cs : List Char) :
    ∃ s, Utf8.encode s = stripNulls (cs.flatMap String.utf8EncodeChar) := by
  induction cs using List.reverseRecOn with
  | nil => exact ⟨"", rfl⟩
  | append_singleton cs c ih =>
    rw [List.flatMap_append, List.flatMap_singleton]
    by_cases hc : c = '\x00'
    · obtain ⟨s, hs⟩ := ih
      have hnul : String.utf8EncodeChar c = [0] := by rw [hc]; rfl
      refine ⟨s, hs.trans ?_⟩
      rw [hnul, stripNulls_eq, stripNulls_eq]
      exact (List.rdropWhile_concat_pos _ _ 0 rfl).symm
    · obtain ⟨bs, b, hbs, hb⟩ := Utf8.utf8EncodeChar_last hc
      refine ⟨String.ofList (cs ++ [c]), ?_⟩
      rw [stripNulls_eq, hbs, ← List.append_assoc,
        List.rdropWhile_concat_neg _ _ _ (by simpa using hb), Utf8.encode, String.toList_ofList,
        List.flatMap_append, List.flatMap_singleton, hbs, List.append_assoc]

/-- **The messages that can be decoded** are the valid ones. -/
theorem exists_stringOfBytes_eq_ok {raw : List UInt8} :
    (∃ s, stringOfBytes raw = .ok s) ↔ ∃ s, raw = Utf8.encode s := by
  have hdecode : (∃ s, stringOfBytes raw = .ok s) ↔ ∃ s, stripNulls raw = Utf8.encode s := by
    simp only [← Utf8.decode_eq_ok]
    rw [stringOfBytes]
    cases Utf8.decode (stripNulls raw) <;> simp
  rw [hdecode]
  constructor
  · rintro ⟨s, hs⟩
    obtain ⟨n, hn⟩ := exists_stripNulls_append raw
    refine ⟨s ++ String.ofList (List.replicate n '\x00'), ?_⟩
    rw [Utf8.encode_append, Utf8.encode_nuls, ← hs, ← hn]
  · rintro ⟨s, rfl⟩
    obtain ⟨t, ht⟩ := exists_encode_eq_stripNulls s.toList
    exact ⟨t, ht.symm⟩

/-- A message that cannot be decoded is an invalid packet. -/
theorem stringOfBytes_ne_serverError (raw : List UInt8) (code : Int32) (text : String) :
    stringOfBytes raw ≠ .err (.serverError code text) := by
  rw [stringOfBytes]
  cases Utf8.decode (stripNulls raw) <;> simp

/-! ### Refusals -/

/-- A response that announces an error: behind the token and a negative response code come
the code of the error and the bytes of its message. -/
def refusalBytes (casInfo : CasInfo) (responseCode code : Int32) (message : List UInt8) :
    List UInt8 :=
  casInfo.toList ++ (writeInt responseCode ++ (writeInt code ++ message))

/-- The error of the server, built from its code and its message. -/
def serverErrorOf {α : Type} (code : Int32) (message : List UInt8) : Outcome ProtocolError α :=
  stringOfBytes message >>= fun text => .err (.serverError code text)

/-- A message that takes up what is left. -/
theorem parseNullTermString_rest {r : PacketReader} (hr : r.Valid) {message : List UInt8}
    (hrest : r.rest = message) : parseNullTermString message.length r =
      stringOfBytes message >>= fun text => .ok (text, r.advance message.length) := by
  have hlen : r.remaining = message.length := by rw [← length_rest, hrest]
  rw [parseNullTermString]
  split
  · obtain rfl := List.length_eq_zero_iff.mp ‹message.length = 0›
    rfl
  · rw [bind_apply, parseField_apply hr, if_pos (by omega), hrest, List.take_length]
    rfl

/-- **The rest of a refusal** is read to its end. -/
theorem failWithServerError_apply {α : Type} {r : PacketReader} (hr : r.Valid) {code : Int32}
    {message : List UInt8} (hrest : r.rest = writeInt code ++ message) :
    (failWithServerError : Parser α) r = serverErrorOf code message := by
  obtain ⟨t, ht, hvalid, htrest⟩ := decodes_parseInt code r message hr hrest
  have hint : (writeInt code).length = SIZE_INT := length_writeInt code
  have hleft : r.remaining - SIZE_INT = message.length := by
    rw [← length_rest, hrest, List.length_append, hint, Nat.add_sub_cancel_left]
  have hmessage : (if message.length > 0 then parseNullTermString message.length
      else pure "" : Parser String) t =
        stringOfBytes message >>= fun text => .ok (text, t.advance message.length) := by
    split
    · exact parseNullTermString_rest hvalid htrest
    · obtain rfl : message = [] := List.length_eq_zero_iff.mp (by omega)
      rfl
  rw [failWithServerError, bind_apply, getRemaining, Outcome.ok_bind, bind_apply, readError,
    bind_apply, ht, Outcome.ok_bind, hleft, bind_apply, hmessage, serverErrorOf]
  cases stringOfBytes message <;> rfl

/-- **What every parser starts with**, on a refusal. -/
theorem parseResponseCode_refusal {data : Bytes} {casInfo : CasInfo} {responseCode code : Int32}
    {message : List UInt8} (hneg : responseCode < 0)
    (hdata : data.1 = refusalBytes casInfo responseCode code message) :
    parseResponseCode (.new data) = serverErrorOf code message := by
  obtain ⟨r, hr, hvalid, hrest⟩ := decodes_parseCasInfo casInfo (.new data) _ (valid_new data) hdata
  obtain ⟨t, ht, hvalid', hrest'⟩ := decodes_parseInt responseCode r _ hvalid hrest
  rw [parseResponseCode, bind_apply, hr, Outcome.ok_bind, bind_apply, ht, Outcome.ok_bind,
    if_pos hneg]
  exact failWithServerError_apply hvalid' hrest'

/-! ### The parsers -/

/-- The parsers of responses, with what they are given beside the response. -/
inductive ResponseParser
  /-- `parse_prepare_and_execute`. -/
  | prepareAndExecute (protoVersion : Int32)
  /-- `parse_prepare`. -/
  | prepare
  /-- `parse_execute`. -/
  | execute (columns : Columns) (stmtType : StatementType) (protoVersion : Int32)
  /-- `parse_fetch`. -/
  | fetch (columns : Columns) (stmtType : StatementType)
  /-- `parse_get_last_insert_id`. -/
  | getLastInsertId
  /-- `parse_open_database`. -/
  | openDatabase
  /-- `parse_get_db_version`. -/
  | getDbVersion
  /-- `parse_simple_response`. -/
  | simpleResponse

namespace ResponseParser

/-- What a parser returns. -/
def Result : ResponseParser → Type
  | prepareAndExecute _ => PrepareAndExecuteResult × CasInfo
  | prepare => PrepareResult × CasInfo
  | execute .. => ExecuteResult × CasInfo
  | fetch .. => FetchResult × CasInfo
  | getLastInsertId => String × CasInfo
  | openDatabase => OpenDatabaseResult
  | getDbVersion => String × CasInfo
  | simpleResponse => CasInfo

/-- Run a parser. -/
def run : (p : ResponseParser) → Bytes → Outcome ProtocolError p.Result
  | prepareAndExecute protoVersion, data => parsePrepareAndExecute data protoVersion
  | prepare, data => parsePrepare data
  | execute columns stmtType protoVersion, data => parseExecute data columns stmtType protoVersion
  | fetch columns stmtType, data => parseFetch data columns stmtType
  | getLastInsertId, data => parseGetLastInsertId data
  | openDatabase, data => parseOpenDatabase data
  | getDbVersion, data => parseGetDbVersion data
  | simpleResponse, data => parseSimpleResponse data

/-- The parser reports an error of the server with this code. -/
def Reports (p : ResponseParser) (data : Bytes) (code : Int32) : Prop :=
  ∃ text, p.run data = .err (.serverError code text)

/-- **Every parser starts with the response code.** -/
theorem exists_run_eq (p : ResponseParser) : ∃ (β : Type) (f : CasInfo × Int32 → Parser β)
    (g : β × PacketReader → p.Result),
      ∀ data, p.run data = g <$> (parseResponseCode >>= f) (PacketReader.new data) := by
  cases p with
  | simpleResponse =>
    refine ⟨_, pure, fun x => x.1.1, fun data => ?_⟩
    rw [bind_pure]
    rfl
  | _ => exact ⟨_, _, Prod.fst, fun data => rfl⟩

/-- **What a parser makes of a refusal**: the error of the server, unless its message
cannot be decoded. -/
theorem run_refusal (p : ResponseParser) {data : Bytes} {casInfo : CasInfo}
    {responseCode code : Int32} {message : List UInt8} (hneg : responseCode < 0)
    (hdata : data.1 = refusalBytes casInfo responseCode code message) :
    p.run data = serverErrorOf code message := by
  obtain ⟨β, f, g, hrun⟩ := p.exists_run_eq
  rw [hrun, bind_apply, parseResponseCode_refusal hneg hdata, serverErrorOf, serverErrorOf]
  cases stringOfBytes message <;> rfl

/-- **An error of the server is reported** exactly when its message is valid UTF-8, by
every parser. -/
theorem reports_iff (p : ResponseParser) (data : Bytes) (casInfo : CasInfo)
    (responseCode code : Int32) (message : List UInt8) (hneg : responseCode < 0)
    (hdata : data.1 = refusalBytes casInfo responseCode code message) :
    p.Reports data code ↔ ∃ s, message = Utf8.encode s := by
  rw [Reports, run_refusal p hneg hdata, serverErrorOf, ← exists_stringOfBytes_eq_ok]
  constructor
  · rintro ⟨text, h⟩
    rcases Outcome.bind_eq_err.mp h with herr | ⟨s, hs, -⟩
    · exact absurd herr (stringOfBytes_ne_serverError message code text)
    · exact ⟨s, hs⟩
  · rintro ⟨s, hs⟩
    exact ⟨s, by rw [hs, Outcome.ok_bind]⟩

/-- A refusal with the code `-493`, and a message in a Korean legacy charset. -/
def koreanRefusal : Bytes :=
  ⟨[0, 0, 0, 0, 255, 255, 255, 255, 255, 255, 254, 19, 0xB0, 0xA1, 0], by decide⟩

theorem reports_iff_korean : prepare.Reports koreanRefusal (-493) ↔
    ∃ s, [0xB0, 0xA1, 0] = Utf8.encode s :=
  reports_iff prepare koreanRefusal (0, 0, 0, 0) (-1) (-493) [0xB0, 0xA1, 0] (by decide) rfl

/-- With every parser, the code of this refusal is lost. -/
theorem run_koreanRefusal (p : ResponseParser) : p.run koreanRefusal = .err (.invalidPacket
    "invalid UTF-8: invalid utf-8 sequence of 1 bytes from index 0") := by
  have hneg : (-1 : Int32) < 0 := by decide
  have hdata : koreanRefusal.1 =
      refusalBytes (0, 0, 0, 0) (-1) (-493) [0xB0, 0xA1, 0] := rfl
  exact run_refusal p hneg hdata

theorem koreanRefusal_not_reported : ¬prepare.Reports koreanRefusal (-493) := by
  rintro ⟨text, htext⟩
  cases (run_koreanRefusal prepare).symm.trans htext

end ResponseParser

end CubridDriver
