import CubridDriver.Agreement
import CubridDriver.ServerErrors

/-!
# Replies

Every parser of responses with the format that it reads. The responses to `GetDbVersion`,
`GetLastInsertId` and `OpenDatabase`, and the simple ones, are read back like those of
queries and of prepared statements.

`CubridDriver.ResponseParser.run_format` puts them together: whatever parser is run on a word of
its format, it returns what the word stands for. So a word stands for one result only,
and none for a result and an error.
-/

namespace CubridDriver

open Checked Format PacketReader PacketWriter

/-! ### The other responses -/

theorem parseSimpleResponse_format {casInfo : CasInfo} {data : Bytes}
    (h : data.1 ∈ simpleFormat casInfo) : parseSimpleResponse data = .ok casInfo := by
  obtain ⟨code, hdata⟩ := h
  obtain ⟨t, ht, -, -⟩ :=
    (readsAs_head casInfo code).final data.1 hdata (.new data) (valid_new data) (rest_new data)
  rw [parseSimpleResponse, ht]
  rfl

/-- A text is read back by a reader that is told its length, or that there is none. -/
theorem readsAs_text_ite {s : String} {text : List UInt8} (h : text ∈ textFormat s) {c : Prop}
    [Decidable c] (hc : text ≠ [] → c) :
    ReadsAs (if c then parseNullTermString text.length else pure "") {text} s := by
  refine readsAll_singleton ?_
  split
  · exact readsAs_text h
  · rename_i hcond
    obtain rfl : text = [] := by
      by_contra hne
      exact hcond (hc hne)
    -- nothing is the empty string, with no terminators
    obtain ⟨-, n, htext⟩ := h
    have hempty : Utf8.encode "" = Utf8.encode s := (List.append_eq_nil_iff.mp htext.symm).1.symm
    rw [← Utf8.encode_inj hempty]
    exact reads_pure _

/-- **The version of the server is read back.** -/
theorem readsToEnd_getDbVersion (casInfo : CasInfo) (version : String) :
    ReadsToEnd parseGetDbVersion.go (getDbVersionFormat casInfo version) (version, casInfo) := by
  rintro w ⟨code, hw⟩
  refine (readsAs_head casInfo code).bind_final (fun text htext r hr hrest => ?_) w hw
  have hremaining : getRemaining r = .ok (text.length, r) := by
    rw [getRemaining, ← length_rest, hrest]
  dsimp only
  rw [bind_apply, hremaining, Outcome.ok_bind]
  have hread : ReadsAs _ _ _ := (readsAs_text_ite (c := text.length > 0) htext
    List.length_pos_iff.mpr).map fun version => (version, casInfo)
  exact hread.final text rfl r hr hrest

/-- **The last number that was given out is read back.** -/
theorem readsToEnd_getLastInsertId (casInfo : CasInfo) (id : String) :
    ReadsToEnd parseGetLastInsertId.go (getLastInsertIdFormat casInfo id) (id, casInfo) := by
  rintro w ⟨text, htext, hlen, hw⟩
  have hread : ReadsAs _ _ _ := (readsAs_text_ite (c := Int32.ofNat text.length > 0) htext
    (ofNat_length_pos hlen)).map fun id => (id, casInfo)
  refine ReadsAll.final ((readsAs_head _ _).bind ?_) w hw
  dsimp only
  rw [asUsize_ofNat hlen]
  exact hread

theorem readsWith_brokerInfo (protoVersion : Int32) :
    ReadsWith (parseRawBytes SIZE_BROKER_INFO) (brokerInfoFormat protoVersion) fun info =>
      ∃ b : UInt8, indexByte info 4 = .ok b ∧ protoVersion = Int32.ofNat (b &&& 0x3F).toNat := by
  rintro w ⟨hlen, b, hb, hversion⟩
  refine ⟨w, ⟨b, ?_, hversion⟩, ?_⟩
  · rw [indexByte, hb]
  · rw [← hlen]
    exact decodes_parseRawBytes w

/-- **The response to `OpenDatabase` is read back.** -/
theorem readsToEnd_openDatabase (r : OpenDatabaseResult) :
    ReadsToEnd parseOpenDatabase.go (openDatabaseFormat r) r := by
  rintro w ⟨code, hw⟩
  refine ReadsAll.final ((readsAs_head _ code).bind ((readsWith_brokerInfo _).bind
    fun info hinfo => ?_)) w hw
  obtain ⟨b, hb, hversion⟩ := hinfo
  refine readsAll_lift_bind hb ?_
  rw [← hversion]
  exact (readsAs_int _).map _

/-! ### All parsers -/

namespace ResponseParser

/-- The words a parser reads as a result. Without columns there are no rows. -/
def format : (p : ResponseParser) → p.Result → Language UInt8
  | prepareAndExecute protoVersion, x => prepareAndExecuteFormat protoVersion x.2 x.1
  | prepare, x => prepareFormat x.2 x.1
  | execute columns stmtType protoVersion, x =>
      {w | (columns.1 = [] → x.1.rows = []) ∧
        w ∈ executeFormat protoVersion x.2 columns stmtType x.1}
  | fetch columns stmtType, x =>
      {w | x.1.tupleCount = Int32.ofNat x.1.rows.length ∧ (columns.1 = [] → x.1.rows = []) ∧
        w ∈ fetchFormat x.2 columns stmtType x.1.rows}
  | getLastInsertId, x => getLastInsertIdFormat x.2 x.1
  | openDatabase, r => openDatabaseFormat r
  | getDbVersion, x => getDbVersionFormat x.2 x.1
  | simpleResponse, casInfo => simpleFormat casInfo

/-- A parser reads its format. -/
theorem run_of_mem (p : ResponseParser) {data : Bytes} {r : p.Result} (h : data.1 ∈ p.format r) :
    p.run data = .ok r := by
  cases p with
  | prepareAndExecute protoVersion => exact parsePrepareAndExecute_format h
  | prepare =>
    have hread : ReadsToEnd parsePrepare.go _ _ := (readsAs_prepare r.2 r.1).final
    exact hread.parse h
  | execute columns stmtType protoVersion =>
    exact (readsToEnd_execute protoVersion _ stmtType h.1).parse h.2
  | fetch columns stmtType =>
    obtain ⟨⟨tupleCount, rows⟩, casInfo⟩ := r
    obtain ⟨htuple, hcols, hdata⟩ := h
    obtain rfl : tupleCount = Int32.ofNat rows.length := htuple
    exact (readsToEnd_fetch casInfo stmtType hcols).parse hdata
  | getLastInsertId => exact (readsToEnd_getLastInsertId _ _).parse h
  | openDatabase => exact (readsToEnd_openDatabase r).parse h
  | getDbVersion => exact (readsToEnd_getDbVersion _ _).parse h
  | simpleResponse => exact parseSimpleResponse_format h

/-- **Every response is read back.** A parser that is run on a word of its format returns what
the word stands for. The word stands for nothing else, and it is no refusal. -/
theorem run_format (p : ResponseParser) (data : Bytes) (r : p.Result) (h : data.1 ∈ p.format r) :
    p.run data = .ok r ∧ (∀ r', data.1 ∈ p.format r' → r' = r) ∧
      ∀ casInfo responseCode code message, responseCode < 0 →
        data.1 ≠ refusalBytes casInfo responseCode code message := by
  have hrun := p.run_of_mem h
  refine ⟨hrun, fun r' h' => ?_, fun casInfo responseCode code message hneg hdata => ?_⟩
  · exact Outcome.ok.inj ((p.run_of_mem h').symm.trans hrun)
  -- a refusal is not read as a result
  · have herr := p.run_refusal hneg hdata
    rw [hrun, serverErrorOf] at herr
    obtain ⟨text, -, htext⟩ := Outcome.bind_eq_ok.mp herr.symm
    cases htext

/-- A response with the version of a server, behind one terminator. -/
def versionBytes : Bytes := ⟨[1, 2, 3, 4, 0, 0, 0, 0, 49, 49, 46, 51, 0], by decide⟩

theorem run_format_versionBytes : getDbVersion.run versionBytes = .ok ("11.3", (1, 2, 3, 4)) := by
  have hnul : NoTrailingNul "11.3" := by
    rw [NoTrailingNul]
    decide
  have hword : versionBytes.1 ∈ getDbVersion.format ("11.3", (1, 2, 3, 4)) := by
    refine ⟨0, Language.mem_mul.mpr ⟨[1, 2, 3, 4, 0, 0, 0, 0], ⟨by decide, rfl⟩, ?_⟩⟩
    exact ⟨[49, 49, 46, 51, 0], ⟨hnul, 1, by decide⟩, rfl⟩
  exact (run_format getDbVersion versionBytes _ hword).1

end ResponseParser

end CubridDriver
