import CubridDriver.NoPanic
import CubridDriver.WireFormat

/-!
# Responses are read back

The parsers read the formats of the responses: a word of the format of a record is parsed
to that record. One lemma for each format, put together by the rules of `Format` along the
parser, from the fields up to the whole responses.
-/

namespace CubridDriver

open Checked Format PacketReader PacketWriter

/-- The parser returns `a` on every word of the format, whatever follows. -/
abbrev ReadsAs {α : Type} (p : Parser α) (F : Language UInt8) (a : α) : Prop :=
  ReadsAll Valid rest p F a

/-- On every word of the format the parser returns something with `C`. -/
abbrev ReadsWith {α : Type} (p : Parser α) (F : Language UInt8) (C : α → Prop) : Prop :=
  ReadsSome Valid rest p F C

/-- The parser returns `a` on every word of the format, when nothing follows. -/
abbrev ReadsToEnd {α : Type} (p : Parser α) (F : Language UInt8) (a : α) : Prop :=
  ReadsFinal Valid rest p F a

/-! ### Numbers -/

theorem not_ofNat_le_zero {n : ℕ} (h : n < 2 ^ 31) (hpos : 0 < n) : ¬Int32.ofNat n ≤ 0 := by
  rw [Int32.le_iff_toInt_le, toInt_ofNat h, Int32.toInt_zero]
  omega

theorem ofNat_length_pos {α : Type} {as : List α} (h : as.length < 2 ^ 31) (hne : as ≠ []) :
    0 < Int32.ofNat as.length := by
  have hpos := List.length_pos_iff.mpr hne
  rw [Int32.lt_iff_toInt_lt, toInt_ofNat h, Int32.toInt_zero]
  omega

/-! ### Fields -/

theorem readsAs_int (v : Int32) : ReadsAs parseInt (intFormat v) v :=
  readsAll_singleton (decodes_parseInt v)

theorem readsAs_short (v : Int16) : ReadsAs parseShort {writeShort v} v :=
  readsAll_singleton (decodes_parseShort v)

/-- A field whose value does not matter. -/
theorem readsWith_field {α : Type} (count : ℕ) (decode : List UInt8 → α) :
    ReadsWith (parseField count decode) (any count) fun _ => True :=
  fun w hw => ⟨decode w, trivial, decodes_parseField decode hw⟩

theorem readsWith_skip (count : ℕ) : ReadsWith (skip count) (any count) fun _ => True := by
  rintro w rfl
  exact ⟨(), trivial, decodes_skip w⟩

theorem readsWith_flag (flag : Bool) :
    ReadsWith parseByte (flagFormat flag) fun b => decide (b = 1) = flag := by
  rintro w ⟨b, rfl, hb⟩
  exact ⟨b, hb, decodes_parseByte b⟩

theorem readsWith_stmtType (t : StatementType) :
    ReadsWith parseByte (stmtTypeFormat t) fun b => StatementType.fromU8 b = t := by
  rintro w ⟨b, rfl, hb⟩
  exact ⟨b, hb, decodes_parseByte b⟩

/-- What follows a count can rely on its range. -/
theorem readsWith_count (n : ℕ) :
    ReadsWith parseInt (countFormat n) fun count => n < 2 ^ 31 ∧ count = Int32.ofNat n := by
  rintro w ⟨hn, rfl⟩
  exact ⟨_, ⟨hn, rfl⟩, decodes_parseInt _⟩

theorem readsAs_text {s : String} {text : List UInt8} (h : text ∈ textFormat s) :
    Decodes (parseNullTermString text.length) text s := by
  obtain ⟨hs, n, rfl⟩ := h
  exact decodes_parseNullTermString hs n

theorem readsAs_lengthString (s : String) : ReadsAs parseLengthString (lengthStringFormat s) s := by
  rintro w ⟨text, htext, hlen, rfl⟩
  refine reads_bind (decodes_parseInt _) ?_
  rw [asUsize_ofNat hlen]
  exact readsAs_text htext

/-! ### Columns and result infos -/

/-- The type of a column, with or without a flag byte. -/
theorem readsAs_columnType (t : DataType) : ReadsAs parseColumnType (typeFormat t) t.toU8 := by
  rintro w (rfl | ⟨flag, hflag, rfl⟩)
  · have hread : Decodes parseColumnType ([t.toU8] ++ []) t.toU8 := by
      refine reads_bind (decodes_parseByte t.toU8) ?_
      rw [if_neg (not_not.mpr t.toU8_and_flag)]
      exact reads_pure _
    rwa [List.append_nil] at hread
  · have hread : Decodes parseColumnType ([flag] ++ [t.toU8]) t.toU8 := by
      refine reads_bind (decodes_parseByte flag) ?_
      rw [if_pos hflag]
      exact decodes_parseByte _
    exact hread

theorem readsAs_column (col : ColumnMetaData) : ReadsAs parseColumn (columnFormat col) col := by
  refine (readsAs_columnType col.columnType).bind ?_
  rw [DataType.fromU8_toU8]
  refine (readsAs_short _).bind ((readsAs_int _).bind ?_)
  refine (readsAs_lengthString _).bind ((readsAs_lengthString _).bind ?_)
  refine (readsAs_lengthString _).bind ((readsWith_flag _).bind fun isNullable hnullable => ?_)
  refine (readsAs_lengthString _).bind ((readsWith_flag _).bind fun isAutoIncrement hauto => ?_)
  refine (readsWith_flag _).bind fun isUniqueKey hunique => ?_
  refine (readsWith_flag _).bind fun isPrimaryKey hprimary => ?_
  refine (readsWith_field _ _).bind fun _ _ => (readsWith_field _ _).bind fun _ _ => ?_
  refine (readsWith_flag _).bind fun isForeignKey hforeign => ?_
  rw [hnullable, hauto, hunique, hprimary, hforeign]
  exact (readsWith_field _ _).map col

theorem withCapacity_ofNat {elemSize n : ℕ} (hsize : elemSize ≤ 2 ^ 31) (h : n < 2 ^ 31) :
    (withCapacity elemSize (asUsize (Int32.ofNat n)) : Outcome ProtocolError Unit) = .ok () := by
  rw [asUsize_ofNat h]
  exact withCapacity_eq_ok hsize (Nat.le_of_lt h)

/-- **The columns are read back**, behind their number. -/
theorem readsAs_columns (columns : Columns) {n : ℕ} (hn : n = columns.1.length) (h : n < 2 ^ 31) :
    ReadsAs (parseColumnMetadata (Int32.ofNat n)) (columns.1.map columnFormat).prod columns := by
  have hvec : columnVec columns.1 = .ok columns := dif_pos columns.2
  refine readsAll_lift_bind (withCapacity_ofNat (by decide) h) ?_
  rw [toInt_ofNat h, Int.toNat_natCast, hn]
  intro w hw s tail hs hrest
  obtain ⟨t, ht, htvalid, htrest⟩ :=
    readsAll_repeatM (fun col _ => readsAs_column col) w hw s tail hs hrest
  refine ⟨t, ?_, htvalid, htrest⟩
  rw [bind_apply, ht, Outcome.ok_bind, lift, hvec, Outcome.ok_bind]

theorem readsAs_resultInfo (info : ResultInfo) :
    ReadsAs parseResultInfo (resultInfoFormat info) info := by
  have hoid : ReadsAs (parseRawBytes SIZE_OID) (oidFormat info.oid) info.oid := by
    rintro w ⟨rfl, hlen⟩
    rw [← hlen]
    exact decodes_parseRawBytes _
  refine (readsWith_stmtType _).bind fun b hb => (readsAs_int _).bind (hoid.bind ?_)
  rw [hb]
  exact (readsWith_field _ _).bind fun _ _ => (readsWith_field _ _).map info

theorem readsAs_resultInfos {infos : List ResultInfo} (h : infos.length < 2 ^ 31) :
    ReadsAs (parseResultInfos (Int32.ofNat infos.length)) (infos.map resultInfoFormat).prod
      infos := by
  refine readsAll_lift_bind (withCapacity_ofNat (by decide) h) ?_
  rw [toInt_ofNat h, Int.toNat_natCast]
  exact readsAll_repeatM fun info _ => readsAs_resultInfo info

/-! ### Rows -/

theorem readsAs_date (year month day : Int16) :
    ReadsAs parseDate ({writeShort year} * ({writeShort month} * {writeShort day}))
      (year, month, day) :=
  (readsAs_short _).bind ((readsAs_short _).bind ((readsAs_short _).map _))

theorem readsAs_time (hour minute second : Int16) :
    ReadsAs parseTime ({writeShort hour} * ({writeShort minute} * {writeShort second}))
      (hour, minute, second) :=
  (readsAs_short _).bind ((readsAs_short _).bind ((readsAs_short _).map _))

theorem readsAs_timestamp (year month day hour minute second : Int16) :
    ReadsAs parseTimestamp ({writeShort year} * ({writeShort month} * ({writeShort day} *
      ({writeShort hour} * ({writeShort minute} * {writeShort second})))))
      (year, month, day, hour, minute, second) :=
  (readsAs_short _).bind ((readsAs_short _).bind ((readsAs_short _).bind
    ((readsAs_short _).bind ((readsAs_short _).bind ((readsAs_short _).map _)))))

theorem readsAs_datetime (year month day hour minute second ms : Int16) :
    ReadsAs parseDatetime ({writeShort year} * ({writeShort month} * ({writeShort day} *
      ({writeShort hour} * ({writeShort minute} * ({writeShort second} * {writeShort ms}))))))
      (year, month, day, hour, minute, second, ms) :=
  (readsAs_short _).bind ((readsAs_short _).bind ((readsAs_short _).bind
    ((readsAs_short _).bind ((readsAs_short _).bind ((readsAs_short _).bind
      ((readsAs_short _).map _))))))

/-- **A value is read back** by the reader of its type, which is told its size. -/
theorem readsAs_value {t : DataType} {v : Value} {payload : List UInt8}
    (h : payload ∈ valueFormat t v) : Decodes (readValue t payload.length) payload v := by
  rw [valueFormat.eq_def] at h
  split at h
  -- the types that are sent as text
  iterate 6
    case _ s => exact reads_map Value.string (readsAs_text h)
  case _ v =>
    obtain rfl : payload = writeShort v := h
    exact reads_map Value.short (decodes_parseShort v)
  case _ v =>
    obtain rfl : payload = writeInt v := h
    exact reads_map Value.int (decodes_parseInt v)
  case _ v =>
    obtain rfl : payload = writeLong v := h
    exact reads_map Value.long (decodes_parseLong v)
  case _ bits =>
    obtain rfl : payload = writeFloat bits := h
    exact reads_map Value.float (decodes_parseFloat bits)
  case _ bits =>
    obtain rfl : payload = writeDouble bits := h
    exact reads_map Value.double (decodes_parseDouble bits)
  case _ bits =>
    obtain rfl : payload = writeDouble bits := h
    exact reads_map Value.double (decodes_parseDouble bits)
  case _ year month day =>
    exact reads_last (readsAs_date year month day payload h) (reads_pure _)
  case _ hour minute second =>
    exact reads_last (readsAs_time hour minute second payload h) (reads_pure _)
  case _ year month day hour minute second =>
    exact reads_last (readsAs_timestamp year month day hour minute second payload h) (reads_pure _)
  case _ year month day hour minute second ms =>
    exact reads_last (readsAs_datetime year month day hour minute second ms payload h)
      (reads_pure _)
  -- the types that are sent as raw bytes
  iterate 8
    case _ v =>
      obtain rfl : payload = v := h
      exact reads_map Value.bytes (decodes_parseRawBytes _)
  exact absurd h (Language.notMem_zero payload)

/-- **A cell is read back**, in each of the ways it may be written. -/
theorem readsAs_cell (isCallType : Bool) (col : ColumnMetaData) (v : Value) :
    ReadsAs (readCell isCallType col) (cellFormat isCallType col v) v := by
  intro w hw
  rcases (Language.mem_add _ _ w).mp hw with hnull | hvalue
  · cases v with
    | null =>
      obtain ⟨size, hsize, rfl⟩ := hnull
      refine reads_last (decodes_parseInt size) ?_
      rw [if_pos hsize]
      exact reads_pure _
    | _ => exact absurd hnull (Language.notMem_zero w)
  -- a value comes behind its size, and behind its type where the column does not tell it
  · split at hvalue
    · obtain ⟨t, payload, hpayload, hne, hlen, rfl⟩ := hvalue
      have hpos := List.length_pos_iff.mpr hne
      refine reads_bind (decodes_parseInt _) ?_
      rw [if_neg (not_ofNat_le_zero hlen (Nat.succ_pos _)), if_pos ‹_›, asUsize_ofNat hlen]
      have hsub : (Outcome.checkedSub (payload.length + 1) 1 : Outcome ProtocolError ℕ) =
          .ok payload.length := Outcome.checkedSub_eq_ok.mpr rfl
      refine reads_bind (decodes_parseByte t.toU8) ?_
      rw [hsub, lift_ok, pure_bind, if_neg (Nat.pos_iff_ne_zero.mp hpos), DataType.fromU8_toU8]
      exact readsAs_value hpayload
    · obtain ⟨payload, hpayload, hne, hlen, rfl⟩ := hvalue
      have hpos := List.length_pos_iff.mpr hne
      refine reads_bind (decodes_parseInt _) ?_
      rw [if_neg (not_ofNat_le_zero hlen hpos), if_neg ‹_›, asUsize_ofNat hlen]
      exact readsAs_value hpayload

theorem readsAs_row (isCallType : Bool) (columns : Columns) (row : Row) :
    ReadsAs (parseRow isCallType columns) (rowFormat isCallType columns row) row := by
  rw [rowFormat]
  split
  · have hcap : (withCapacity valueSize columns.1.length : Outcome ProtocolError Unit) = .ok () :=
      withCapacity_columns columns
    refine (readsWith_field _ _).bind fun _ _ => (readsWith_skip _).bind fun _ _ => ?_
    refine readsAll_lift_bind hcap ?_
    exact readsAll_forEach ‹_› fun col _ v => readsAs_cell isCallType col v
  · intro w hw
    exact absurd hw (Language.notMem_zero w)

theorem readsAs_rows (columns : Columns) (stmtType : StatementType) {rows : List Row}
    (h : rows.length < 2 ^ 31) :
    ReadsAs (parseRowData (Int32.ofNat rows.length) columns stmtType)
      (rowsFormat columns stmtType rows) rows := by
  refine readsAll_lift_bind (withCapacity_ofNat (by decide) h) ?_
  rw [toInt_ofNat h, Int.toNat_natCast]
  exact readsAll_repeatM fun row _ => readsAs_row stmtType.isCall columns row

/-- Rows that are only read when there are some to be looked for. -/
theorem readsAs_rows_ite (columns : Columns) (stmtType : StatementType) {rows : List Row}
    (h : rows.length < 2 ^ 31) {c : Prop} [Decidable c]
    (hc : Int32.ofNat rows.length > 0 → c) :
    ReadsAs (if c then parseRowData (Int32.ofNat rows.length) columns stmtType else pure [])
      (rowsFormat columns stmtType rows) rows := by
  split
  · exact readsAs_rows columns stmtType h
  · rename_i hcond
    obtain rfl : rows = [] := by
      by_contra hne
      exact hcond (hc (ofNat_length_pos h hne))
    exact readsAll_pure _

/-! ### Responses -/

theorem readsAs_head (casInfo : CasInfo) (code : Int32) :
    ReadsAs parseResponseCode (headFormat casInfo code) (casInfo, code) := by
  rintro w ⟨hcode, rfl⟩
  refine reads_bind (decodes_parseCasInfo casInfo) (reads_last (decodes_parseInt code) ?_)
  have hpos : ¬code < 0 := by
    rw [Int32.le_iff_toInt_le, Int32.toInt_zero] at hcode
    rw [Int32.lt_iff_toInt_lt, Int32.toInt_zero]
    omega
  rw [if_neg hpos]
  exact reads_pure _

theorem readsAs_skipIf {α : Type} (c : Prop) [Decidable c] (count : ℕ)
    (decode : List UInt8 → α) :
    ReadsAs (skipIf c (parseField count decode)) (if c then any count else 1) () := by
  rw [skipIf]
  split <;> rename_i hc
  · rw [if_pos (of_decide_eq_true hc)]
    exact (readsWith_field _ _).map ()
  · rw [if_neg (of_decide_eq_false (Bool.eq_false_of_not_eq_true hc))]
    exact readsAll_pure ()

theorem readsAs_versionFields (protoVersion : Int32) :
    ReadsAs (skipVersionFields protoVersion) (versionFormat protoVersion) () :=
  (readsAs_skipIf _ _ _).bind (readsAs_skipIf _ _ _)

/-- The rows that come with a response, when there are some to be looked for. -/
theorem readsAs_inlineRows (columns : Columns) (stmtType : StatementType) (rows : List Row)
    (skipEmpty : Bool) (hcols : skipEmpty = true → columns.1 = [] → rows = []) :
    ReadsAs (do
      let _ ← parseInt
      let tupleCount ← parseInt
      if tupleCount > 0 ∧ ¬(skipEmpty ∧ columns.1 = []) then
        return (tupleCount, ← parseRowData tupleCount columns stmtType)
      else return (tupleCount, []))
      (any 4 * (countFormat rows.length * rowsFormat columns stmtType rows))
      (Int32.ofNat rows.length, rows) := by
  refine (readsWith_field _ _).bind fun _ _ => (readsWith_count _).bind fun count hcount => ?_
  obtain ⟨hlen, rfl⟩ := hcount
  have hread (hpos : Int32.ofNat rows.length > 0) :
      Int32.ofNat rows.length > 0 ∧ ¬(skipEmpty ∧ columns.1 = []) := by
    refine ⟨hpos, fun h => ?_⟩
    rw [hcols h.1 h.2] at hpos
    exact absurd hpos (by decide)
  have hrows := (readsAs_rows_ite columns stmtType hlen hread).map
    fun rows' => (Int32.ofNat rows.length, rows')
  rwa [apply_ite (· >>= fun rows' => pure (Int32.ofNat rows.length, rows'))] at hrows

/-- **The rows that come with a response are read back**, to the end of the response. -/
theorem readsToEnd_inlineRows (columns : Columns) (stmtType : StatementType) (tupleCount : Int32)
    (rows : List Row) (skipEmpty : Bool)
    (hcols : skipEmpty = true → columns.1 = [] → rows = []) :
    ReadsToEnd (parseInlineRows columns stmtType skipEmpty)
      (inlineFormat columns stmtType tupleCount rows) (tupleCount, rows) := by
  rintro w ⟨rfl, hw⟩ r hr hrest
  have hremaining : getRemaining r = .ok (w.length, r) := by
    rw [getRemaining, ← length_rest, hrest]
  rw [parseInlineRows, bind_apply, hremaining, Outcome.ok_bind]
  rcases hw with ⟨rfl, rfl⟩ | ⟨hselect, hw⟩
  -- nothing is left, and the parser looks before it reads
  · have hshort : ¬0 ≥ SIZE_INT * 2 := by decide
    rw [if_neg fun h => hshort h.2]
    exact ⟨r, rfl, hr, hrest⟩
  -- the code and the count alone make the packet long enough
  · have hlen : SIZE_INT * 2 ≤ w.length := by
      obtain ⟨u, hu, v, hv, rfl⟩ := Language.mem_mul.mp hw
      obtain ⟨count, ⟨-, rfl⟩, rest, -, rfl⟩ := Language.mem_mul.mp hv
      have hu : u.length = 4 := hu
      simp only [List.length_append, length_writeInt, SIZE_INT]
      omega
    rw [if_pos ⟨hselect, hlen⟩]
    exact (readsAs_inlineRows columns stmtType rows skipEmpty hcols).final w hw r hr hrest

/-- A parser run on a whole packet. -/
theorem ReadsToEnd.parse {α : Type} {p : Parser α} {F : Language UInt8} {a : α}
    (h : ReadsToEnd p F a) {data : Bytes} (hdata : data.1 ∈ F) :
    (Prod.fst <$> p (.new data) : Outcome ProtocolError α) = .ok a := by
  obtain ⟨t, ht, -, -⟩ := h data.1 hdata (.new data) (valid_new data) (rest_new data)
  rw [ht]
  rfl

/-- What the parser of the response to `PrepareAndExecute` reads before it looks for rows. -/
def parsePrelude (protoVersion : Int32) : Parser (PrepareAndExecuteResult × CasInfo) := do
  let (casInfo, queryHandle) ← parseResponseCode
  let _ ← parseInt
  let stmtTypeByte ← parseByte
  let statementType := StatementType.fromU8 stmtTypeByte
  let bindCount ← parseInt
  let _ ← parseByte
  let colCount ← parseInt
  let columns ← parseColumnMetadata colCount
  let totalTupleCount ← parseInt
  let _ ← parseByte
  let resultCount ← parseInt
  let resultInfos ← parseResultInfos resultCount
  skipVersionFields protoVersion
  return ({
    queryHandle, statementType, bindCount, columns, totalTupleCount, resultInfos
    tupleCount := 0, rows := [] }, casInfo)

/-- The parser is its prelude, and the rows. -/
theorem parsePrepareAndExecute_go_eq (protoVersion : Int32) :
    parsePrepareAndExecute.go protoVersion = do
      let (r, casInfo) ← parsePrelude protoVersion
      let (tupleCount, rows) ← parseInlineRows r.columns r.statementType false
      return ({ r with tupleCount, rows }, casInfo) := by
  simp only [parsePrepareAndExecute.go, parsePrelude, bind_assoc, pure_bind]

/-- The response to a `PrepareAndExecute` request, up to the rows. -/
def preludeFormat (protoVersion : Int32) (casInfo : CasInfo) (r : PrepareAndExecuteResult) :
    Language UInt8 :=
  headFormat casInfo r.queryHandle *
  (any 4 *
  (stmtTypeFormat r.statementType *
  (intFormat r.bindCount *
  (any 1 *
  (countFormat r.columns.1.length *
  ((r.columns.1.map columnFormat).prod *
  (intFormat r.totalTupleCount *
  (any 1 *
  (countFormat r.resultInfos.length *
  ((r.resultInfos.map resultInfoFormat).prod *
  versionFormat protoVersion))))))))))

theorem prepareAndExecuteFormat_eq (protoVersion : Int32) (casInfo : CasInfo)
    (r : PrepareAndExecuteResult) : prepareAndExecuteFormat protoVersion casInfo r =
      preludeFormat protoVersion casInfo r *
        inlineFormat r.columns r.statementType r.tupleCount r.rows := by
  simp only [prepareAndExecuteFormat, preludeFormat, mul_assoc]

/-- **The prelude is read back**, whatever follows. -/
theorem readsAs_prelude (protoVersion : Int32) (casInfo : CasInfo) (r : PrepareAndExecuteResult) :
    ReadsAs (parsePrelude protoVersion) (preludeFormat protoVersion casInfo r)
      ({ r with tupleCount := 0, rows := [] }, casInfo) := by
  refine (readsAs_head _ _).bind ((readsWith_field _ _).bind fun _ _ => ?_)
  refine (readsWith_stmtType _).bind fun b hb => (readsAs_int _).bind ?_
  refine (readsWith_field _ _).bind fun _ _ => (readsWith_count _).bind fun count hcount => ?_
  obtain ⟨hcols, rfl⟩ := hcount
  refine (readsAs_columns r.columns rfl hcols).bind ((readsAs_int _).bind ?_)
  refine (readsWith_field _ _).bind fun _ _ => (readsWith_count _).bind fun count hcount => ?_
  obtain ⟨hinfos, rfl⟩ := hcount
  rw [hb]
  exact (readsAs_resultInfos hinfos).bind ((readsAs_versionFields _).map _)

/-- **The response to `PrepareAndExecute` is read back**, to its end. -/
theorem readsToEnd_prepareAndExecute (protoVersion : Int32) (casInfo : CasInfo)
    (r : PrepareAndExecuteResult) :
    ReadsToEnd (parsePrepareAndExecute.go protoVersion)
      (prepareAndExecuteFormat protoVersion casInfo r) (r, casInfo) := by
  rw [parsePrepareAndExecute_go_eq, prepareAndExecuteFormat_eq]
  refine (readsAs_prelude protoVersion casInfo r).bind_final ?_
  exact (readsToEnd_inlineRows r.columns r.statementType r.tupleCount r.rows false nofun).last
    (readsAll_pure _)

theorem parsePrepareAndExecute_format {protoVersion : Int32} {casInfo : CasInfo}
    {r : PrepareAndExecuteResult} {data : Bytes}
    (h : data.1 ∈ prepareAndExecuteFormat protoVersion casInfo r) :
    parsePrepareAndExecute data protoVersion = .ok (r, casInfo) :=
  (readsToEnd_prepareAndExecute protoVersion casInfo r).parse h

/-- **The response to `Execute` is read back**; without columns there are no rows. -/
theorem readsToEnd_execute (protoVersion : Int32) (casInfo : CasInfo) {columns : Columns}
    (stmtType : StatementType) {r : ExecuteResult} (hcols : columns.1 = [] → r.rows = []) :
    ReadsToEnd (parseExecute.go columns stmtType protoVersion)
      (executeFormat protoVersion casInfo columns stmtType r) (r, casInfo) := by
  refine (readsAs_head _ _).bind_final ((readsWith_field _ _).bind_final fun _ _ => ?_)
  refine (readsWith_count _).bind_final fun count hcount => ?_
  obtain ⟨hinfos, rfl⟩ := hcount
  refine (readsAs_resultInfos hinfos).bind_final ((readsAs_versionFields _).bind_final ?_)
  exact (readsToEnd_inlineRows columns stmtType r.tupleCount r.rows true fun _ => hcols).last
    (readsAll_pure _)

theorem parseExecute_format {protoVersion : Int32} {casInfo : CasInfo} {columns : Columns}
    {stmtType : StatementType} {r : ExecuteResult} {data : Bytes} (hcols : columns.1 ≠ [])
    (h : data.1 ∈ executeFormat protoVersion casInfo columns stmtType r) :
    parseExecute data columns stmtType protoVersion = .ok (r, casInfo) :=
  (readsToEnd_execute protoVersion casInfo stmtType fun h => absurd h hcols).parse h

/-- **The response to `Fetch` is read back**; without columns there are no rows. -/
theorem readsToEnd_fetch (casInfo : CasInfo) {columns : Columns} (stmtType : StatementType)
    {rows : List Row} (hcols : columns.1 = [] → rows = []) :
    ReadsToEnd (parseFetch.go columns stmtType) (fetchFormat casInfo columns stmtType rows)
      ({ tupleCount := Int32.ofNat rows.length, rows }, casInfo) := by
  rintro w ⟨code, hw⟩
  refine ReadsAll.final ((readsAs_head _ code).bind ((readsWith_count _).bind
    fun count hcount => ?_)) w hw
  obtain ⟨hlen, rfl⟩ := hcount
  refine (readsAs_rows_ite columns stmtType hlen fun hpos => ⟨hpos, fun h => ?_⟩).map _
  rw [hcols h] at hpos
  exact absurd hpos (by decide)

theorem parseFetch_format {casInfo : CasInfo} {columns : Columns} {stmtType : StatementType}
    {rows : List Row} {data : Bytes} (hcols : columns.1 ≠ [])
    (h : data.1 ∈ fetchFormat casInfo columns stmtType rows) :
    parseFetch data columns stmtType =
      .ok ({ tupleCount := Int32.ofNat rows.length, rows }, casInfo) :=
  (readsToEnd_fetch casInfo stmtType fun h => absurd h hcols).parse h

end CubridDriver
