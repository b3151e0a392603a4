import CubridDriver.RowShape

/-!
# Encoding a response

A writer for the response to `PrepareAndExecute`, after the documented wire formats, and
what it can write: `CubridDriver.PrepareAndExecuteResult.Encodable`. It writes one word of
the format of the record. Where the format leaves a choice it takes the plainest one, and
`CubridDriver.parsePrepareAndExecute_encode` covers the other ones too.

A text that ends in a null character is what cannot be written so that it is read back,
be it a name, a default value or a value: the parser takes such characters for
terminators.
-/

namespace CubridDriver

open Checked Format PacketReader PacketWriter

/-! ### The writer -/

/-- Write the description of a column. -/
def encodeColumn (col : ColumnMetaData) : List UInt8 :=
  [col.columnType.toU8] ++
  (writeShort col.scale ++
  (writeInt col.precision ++
  (writeNullTermString col.name ++
  (writeNullTermString col.realName ++
  (writeNullTermString col.tableName ++
  ([flagByte col.isNullable] ++
  (writeNullTermString col.defaultValue ++
  ([flagByte col.isAutoIncrement] ++
  ([flagByte col.isUniqueKey] ++
  ([flagByte col.isPrimaryKey] ++
  ([0] ++ -- is_reverse_index
  ([0] ++ -- is_reverse_unique
  ([flagByte col.isForeignKey] ++
  [0]))))))))))))) -- is_shared

/-- Write what one statement of a batch did. -/
def encodeResultInfo (info : ResultInfo) : List UInt8 :=
  [info.stmtType.toU8] ++
  (writeInt info.resultCount ++
  (info.oid ++
  (writeInt 0 ++ -- cache_time_sec
  writeInt 0))) -- cache_time_usec

/-- The bytes of a value, without its size. A Boolean has none: it is never sent. -/
def encodeValue : Value → List UInt8
  | .null | .bool _ => []
  | .short v => writeShort v
  | .int v => writeInt v
  | .long v => writeLong v
  | .float bits => writeFloat bits
  | .double bits => writeDouble bits
  | .string s => Utf8.encode s ++ [0]
  | .bytes v => v
  | .date year month day => writeShort year ++ (writeShort month ++ writeShort day)
  | .time hour minute second => writeShort hour ++ (writeShort minute ++ writeShort second)
  | .timestamp year month day hour minute second =>
      writeShort year ++ (writeShort month ++ (writeShort day ++
      (writeShort hour ++ (writeShort minute ++ writeShort second))))
  | .datetime year month day hour minute second ms =>
      writeShort year ++ (writeShort month ++ (writeShort day ++
      (writeShort hour ++ (writeShort minute ++ (writeShort second ++ writeShort ms)))))

/-- A type a value can be tagged with. -/
def Value.tag : Value → DataType
  | .null | .bool _ => .null
  | .short _ => .short
  | .int _ => .int
  | .long _ => .bigint
  | .float _ => .float
  | .double _ => .double
  | .string _ => .string
  | .bytes _ => .varBit
  | .date .. => .date
  | .time .. => .time
  | .timestamp .. => .timestamp
  | .datetime .. => .datetime

/-- Write the value of a column. A column of type `NULL` leaves the type to the value. -/
def encodeCell (col : ColumnMetaData) (v : Value) : List UInt8 :=
  let payload := encodeValue v
  if v = .null then writeInt (-1)
  else if col.columnType = .null then
    writeInt (Int32.ofNat (payload.length + 1)) ++ ([v.tag.toU8] ++ payload)
  else writeInt (Int32.ofNat payload.length) ++ payload

/-- Write a row. -/
def encodeRow (columns : Columns) (row : Row) : List UInt8 :=
  writeInt 0 ++ (List.replicate SIZE_OID 0 ++ (columns.1.zipWith encodeCell row).flatten)

/-- Write what newer protocol versions add. -/
def encodeVersionFields (protoVersion : Int32) : List UInt8 :=
  (if protoVersion > 1 then [1] else []) ++ if protoVersion > 4 then writeInt 0 else []

/-- Write the rows that come with the response to a query. -/
def encodeInlineRows (columns : Columns) (stmtType : StatementType) (rows : List Row) :
    List UInt8 :=
  if stmtType.isSelect then
    writeInt 0 ++ (writeInt (Int32.ofNat rows.length) ++ (rows.map (encodeRow columns)).flatten)
  else []

/-- Write the response to a `PrepareAndExecute` request. -/
def encodePrepareAndExecute (protoVersion : Int32) (casInfo : CasInfo)
    (r : PrepareAndExecuteResult) : List UInt8 :=
  (casInfo.toList ++ writeInt r.queryHandle) ++
  (writeInt 0 ++ -- result cache lifetime
  ([r.statementType.toU8] ++
  (writeInt r.bindCount ++
  ([0] ++ -- is_updatable
  (writeInt (Int32.ofNat r.columns.1.length) ++
  ((r.columns.1.map encodeColumn).flatten ++
  (writeInt r.totalTupleCount ++
  ([0] ++ -- cache_reusable
  (writeInt (Int32.ofNat r.resultInfos.length) ++
  ((r.resultInfos.map encodeResultInfo).flatten ++
  (encodeVersionFields protoVersion ++
  encodeInlineRows r.columns r.statementType r.rows)))))))))))

/-! ### What can be written -/

/-- A text can be told from its terminators, and its length fits its field. -/
structure TextEncodable (s : String) : Prop where
  noTrailingNul : NoTrailingNul s
  length_lt : (Utf8.encode s).length + 1 < 2 ^ 31

/-- The texts of a column can be written. -/
structure ColumnMetaData.Encodable (col : ColumnMetaData) : Prop where
  name : TextEncodable col.name
  realName : TextEncodable col.realName
  tableName : TextEncodable col.tableName
  defaultValue : TextEncodable col.defaultValue

/-- A value that is sent: a string does not end in a null character, and a byte string is
not empty. -/
def Value.Sent : Value → Prop
  | .null | .bool _ => False
  | .string s => NoTrailingNul s
  | .bytes v => v ≠ []
  | _ => True

/-- A cell: `NULL`, or a value of the type of the column, of any type where that is
`NULL`; its size fits its field. -/
def CellEncodable (col : ColumnMetaData) (v : Value) : Prop :=
  v = .null ∨ v.Sent ∧
    if col.columnType = .null then (encodeValue v).length + 1 < 2 ^ 31
    else col.columnType.Holds v ∧ (encodeValue v).length < 2 ^ 31

/-- The responses that can be written. What is asked of a number or a length is that it
fits its field. -/
structure PrepareAndExecuteResult.Encodable (r : PrepareAndExecuteResult) : Prop where
  queryHandle : 0 ≤ r.queryHandle
  columns_lt : r.columns.1.length < 2 ^ 31
  columns : ∀ col ∈ r.columns.1, col.Encodable
  resultInfos_lt : r.resultInfos.length < 2 ^ 31
  resultInfos : ∀ info ∈ r.resultInfos, info.oid.length = SIZE_OID
  /-- Only a query has rows. -/
  select : r.statementType = .select ∨ r.rows = []
  rows_lt : r.rows.length < 2 ^ 31
  rows : ∀ row ∈ r.rows, List.Forall₂ CellEncodable r.columns.1 row
  tupleCount : r.tupleCount = Int32.ofNat r.rows.length

/-! ### It is a word of the format -/

theorem flagByte_mem (flag : Bool) : [flagByte flag] ∈ flagFormat flag := by
  refine ⟨flagByte flag, rfl, ?_⟩
  cases flag <;> rfl

/-- One terminator is as good as any number of them. -/
theorem writeNullTermString_mem {s : String} (h : TextEncodable s) :
    writeNullTermString s ∈ lengthStringFormat s := by
  have hlen : (Utf8.encode s ++ [0]).length = (Utf8.encode s).length + 1 := List.length_append
  refine ⟨Utf8.encode s ++ [0], ⟨h.noTrailingNul, 1, rfl⟩, ?_, ?_⟩
  · rw [hlen]
    exact h.length_lt
  · rw [hlen]
    exact List.append_assoc _ _ _

theorem encodeColumn_mem {col : ColumnMetaData} (h : col.Encodable) :
    encodeColumn col ∈ columnFormat col := by
  refine Language.append_mem_mul (Or.inl rfl) (Language.append_mem_mul rfl ?_)
  refine Language.append_mem_mul rfl ?_
  refine Language.append_mem_mul (writeNullTermString_mem h.name) ?_
  refine Language.append_mem_mul (writeNullTermString_mem h.realName) ?_
  refine Language.append_mem_mul (writeNullTermString_mem h.tableName) ?_
  refine Language.append_mem_mul (flagByte_mem _) ?_
  refine Language.append_mem_mul (writeNullTermString_mem h.defaultValue) ?_
  refine Language.append_mem_mul (flagByte_mem _) (Language.append_mem_mul (flagByte_mem _) ?_)
  refine Language.append_mem_mul (flagByte_mem _) (Language.append_mem_mul rfl ?_)
  exact Language.append_mem_mul rfl (Language.append_mem_mul (flagByte_mem _) rfl)

theorem stmtType_mem (t : StatementType) : [t.toU8] ∈ stmtTypeFormat t :=
  ⟨t.toU8, rfl, StatementType.fromU8_toU8 t⟩

theorem encodeResultInfo_mem {info : ResultInfo} (h : info.oid.length = SIZE_OID) :
    encodeResultInfo info ∈ resultInfoFormat info := by
  refine Language.append_mem_mul (stmtType_mem _) (Language.append_mem_mul rfl ?_)
  exact Language.append_mem_mul ⟨rfl, h⟩ (Language.append_mem_mul rfl rfl)

/-- **A value is written in the format of its type.** -/
theorem encodeValue_mem {t : DataType} {v : Value} (hv : v.Sent) (h : t.Holds v) :
    encodeValue v ∈ valueFormat t v := by
  cases v with
  | null => exact hv.elim
  | bool v => exact hv.elim
  | short v =>
    obtain rfl : t = .short := h
    exact rfl
  | int v =>
    obtain rfl : t = .int := h
    exact rfl
  | long v =>
    obtain rfl : t = .bigint := h
    exact rfl
  | float bits =>
    obtain rfl : t = .float := h
    exact rfl
  | double bits =>
    obtain rfl | rfl : t = .double ∨ t = .monetary := h
    all_goals exact rfl
  | string s =>
    have htext : Utf8.encode s ++ [0] ∈ textFormat s := ⟨hv, 1, rfl⟩
    rcases h with rfl | rfl | rfl | rfl | rfl | rfl <;> exact htext
  | bytes v => rcases h with rfl | rfl | rfl | rfl | rfl | rfl | rfl | rfl <;> exact rfl
  | date year month day =>
    obtain rfl : t = .date := h
    exact Language.append_mem_mul rfl (Language.append_mem_mul rfl rfl)
  | time hour minute second =>
    obtain rfl : t = .time := h
    exact Language.append_mem_mul rfl (Language.append_mem_mul rfl rfl)
  | timestamp year month day hour minute second =>
    obtain rfl : t = .timestamp := h
    refine Language.append_mem_mul rfl (Language.append_mem_mul rfl ?_)
    refine Language.append_mem_mul rfl (Language.append_mem_mul rfl ?_)
    exact Language.append_mem_mul rfl rfl
  | datetime year month day hour minute second ms =>
    obtain rfl : t = .datetime := h
    refine Language.append_mem_mul rfl (Language.append_mem_mul rfl ?_)
    refine Language.append_mem_mul rfl (Language.append_mem_mul rfl ?_)
    exact Language.append_mem_mul rfl (Language.append_mem_mul rfl rfl)

/-- No value that is sent is empty: a size of zero stands for `NULL`. -/
theorem encodeValue_ne_nil {v : Value} (hv : v.Sent) : encodeValue v ≠ [] := by
  have hnumber : ∀ {k n}, BigEndian.encode (k + 1) n ≠ [] := fun h => by
    simpa using congrArg List.length h
  have hfirst : ∀ {k n} {w : List UInt8}, BigEndian.encode (k + 1) n ++ w ≠ [] :=
    List.append_ne_nil_of_left_ne_nil hnumber _
  cases v with
  | null => exact hv.elim
  | bool v => exact hv.elim
  | string s => exact List.append_ne_nil_of_right_ne_nil _ (List.cons_ne_nil _ _)
  | bytes v => exact hv
  | date year month day => exact hfirst
  | time hour minute second => exact hfirst
  | timestamp year month day hour minute second => exact hfirst
  | datetime year month day hour minute second ms => exact hfirst
  | _ => exact hnumber

/-- A value is of the type it is tagged with. -/
theorem tag_holds {v : Value} (hv : v.Sent) : v.tag.Holds v := by
  cases v with
  | null => exact hv.elim
  | bool v => exact hv.elim
  | double bits => exact Or.inl rfl
  | string s => exact Or.inr (Or.inl rfl)
  | bytes v => exact Or.inr (Or.inl rfl)
  | _ => exact rfl

theorem encodeCell_mem {col : ColumnMetaData} {v : Value} (h : CellEncodable col v) :
    encodeCell col v ∈ cellFormat false col v := by
  rcases h with rfl | ⟨hv, h⟩
  · exact Or.inl ⟨-1, by decide, rfl⟩
  · have hnull : v ≠ .null := by
      rintro rfl
      exact hv
    refine Or.inr ?_
    rw [encodeCell, if_neg hnull]
    -- outside of calls a value is tagged in a column of type `NULL` only
    by_cases htype : col.columnType = .null
    · rw [if_pos htype] at h
      rw [if_pos htype, if_pos (Or.inr htype)]
      exact ⟨v.tag, _, encodeValue_mem hv (tag_holds hv), encodeValue_ne_nil hv, h, rfl⟩
    · rw [if_neg htype] at h
      rw [if_neg htype, if_neg fun hor => hor.elim nofun htype]
      exact ⟨_, encodeValue_mem hv h.1, encodeValue_ne_nil hv, h.2, rfl⟩

theorem encodeRow_mem {columns : Columns} {row : Row}
    (h : List.Forall₂ CellEncodable columns.1 row) :
    encodeRow columns row ∈ rowFormat false columns row := by
  rw [rowFormat, if_pos h.length_eq.symm]
  refine Language.append_mem_mul rfl (Language.append_mem_mul rfl ?_)
  exact flatten_zipWith_mem (h.imp fun _ _ => encodeCell_mem)

theorem encodeVersionFields_mem (protoVersion : Int32) :
    encodeVersionFields protoVersion ∈ versionFormat protoVersion := by
  refine Language.append_mem_mul ?_ ?_ <;> split <;> exact rfl

/-- **The writer writes a word of the format.** -/
theorem encodePrepareAndExecute_mem {r : PrepareAndExecuteResult} (h : r.Encodable)
    (protoVersion : Int32) (casInfo : CasInfo) :
    encodePrepareAndExecute protoVersion casInfo r ∈
      prepareAndExecuteFormat protoVersion casInfo r := by
  have hinline : encodeInlineRows r.columns r.statementType r.rows ∈
      inlineFormat r.columns r.statementType r.tupleCount r.rows := by
    refine ⟨h.tupleCount, ?_⟩
    rw [encodeInlineRows]
    split
    · rename_i hselect
      refine Or.inr ⟨hselect, Language.append_mem_mul rfl ?_⟩
      refine Language.append_mem_mul ⟨h.rows_lt, rfl⟩ (flatten_map_mem fun row hrow => ?_)
      rw [isCall_of_isSelect hselect]
      exact encodeRow_mem (h.rows row hrow)
    · rename_i hother
      exact Or.inl ⟨rfl, h.select.resolve_left fun hselect => hother (decide_eq_true hselect)⟩
  refine Language.append_mem_mul ⟨h.queryHandle, rfl⟩ (Language.append_mem_mul rfl ?_)
  refine Language.append_mem_mul (stmtType_mem _) (Language.append_mem_mul rfl ?_)
  refine Language.append_mem_mul rfl (Language.append_mem_mul ⟨h.columns_lt, rfl⟩ ?_)
  refine Language.append_mem_mul
    (flatten_map_mem fun col hcol => encodeColumn_mem (h.columns col hcol)) ?_
  refine Language.append_mem_mul rfl (Language.append_mem_mul rfl ?_)
  refine Language.append_mem_mul ⟨h.resultInfos_lt, rfl⟩ ?_
  refine Language.append_mem_mul
    (flatten_map_mem fun info hinfo => encodeResultInfo_mem (h.resultInfos info hinfo)) ?_
  exact Language.append_mem_mul (encodeVersionFields_mem _) hinline

/-! ### The round trip -/

/-- **What is encoded is decoded.** Every response that can be written is: the writer writes
a word of its format. And every word of the format, whichever way its choices are made, is
parsed to exactly this response and its CAS info token, with every byte consumed. -/
theorem parsePrepareAndExecute_encode {r : PrepareAndExecuteResult} (h : r.Encodable)
    (protoVersion : Int32) (casInfo : CasInfo) :
    encodePrepareAndExecute protoVersion casInfo r ∈
        prepareAndExecuteFormat protoVersion casInfo r ∧
      ∀ data : Bytes, data.1 ∈ prepareAndExecuteFormat protoVersion casInfo r →
        parsePrepareAndExecute data protoVersion = .ok (r, casInfo) ∧
        ∃ t, parsePrepareAndExecute.go protoVersion (.new data) = .ok ((r, casInfo), t) ∧
          t.rest = [] := by
  refine ⟨encodePrepareAndExecute_mem h protoVersion casInfo, fun data hdata => ?_⟩
  refine ⟨parsePrepareAndExecute_format hdata, ?_⟩
  obtain ⟨t, ht, -, hrest⟩ := readsToEnd_prepareAndExecute protoVersion casInfo r data.1 hdata
    (.new data) (valid_new data) (rest_new data)
  exact ⟨t, ht, hrest⟩

/-- A query with one integer column, whose default value is the given text, and one row. -/
def oneRow (defaultValue : String) : PrepareAndExecuteResult where
  queryHandle := 1
  statementType := .select
  bindCount := 0
  columns := ⟨[{ TwoRows.column with defaultValue }], (by decide : 1 * columnSize ≤ isizeMax)⟩
  totalTupleCount := 1
  resultInfos := [⟨.select, 1, List.replicate SIZE_OID 0⟩]
  tupleCount := 1
  rows := [[.int 7]]

theorem textEncodable_empty : TextEncodable "" := by
  refine ⟨?_, by decide⟩
  rw [NoTrailingNul]
  decide

/-- Without a default value it is read back. -/
theorem parsePrepareAndExecute_encode_oneRow : ∃ data : Bytes,
    data.1 = encodePrepareAndExecute 7 (1, 2, 3, 4) (oneRow "") ∧
      parsePrepareAndExecute data 7 = .ok (oneRow "", (1, 2, 3, 4)) := by
  have hcol : ∀ col ∈ (oneRow "").columns.1, col.Encodable := by
    intro col hcol
    obtain rfl := List.mem_singleton.mp hcol
    exact ⟨textEncodable_empty, textEncodable_empty, textEncodable_empty, textEncodable_empty⟩
  have hrow : ∀ row ∈ (oneRow "").rows, List.Forall₂ CellEncodable (oneRow "").columns.1 row := by
    intro row hrow
    obtain rfl := List.mem_singleton.mp hrow
    exact .cons (Or.inr ⟨trivial, rfl, by decide⟩) .nil
  have hinfo : ∀ info ∈ (oneRow "").resultInfos, info.oid.length = SIZE_OID := by
    intro info hinfo
    obtain rfl := List.mem_singleton.mp hinfo
    rfl
  obtain ⟨hword, hparse⟩ := parsePrepareAndExecute_encode
    ⟨by decide, by decide, hcol, by decide, hinfo, Or.inl rfl, by decide, hrow, rfl⟩ 7 (1, 2, 3, 4)
  exact ⟨⟨_, by decide⟩, rfl, (hparse ⟨_, by decide⟩ hword).1⟩

/-- A default value that is a null character is lost: it is taken for the terminator. -/
theorem parsePrepareAndExecute_default_nul : ∃ data : Bytes,
    data.1 = encodePrepareAndExecute 7 (1, 2, 3, 4) (oneRow "\x00") ∧
      parsePrepareAndExecute data 7 = .ok (oneRow "", (1, 2, 3, 4)) ∧ oneRow "" ≠ oneRow "\x00" :=
  ⟨⟨encodePrepareAndExecute 7 (1, 2, 3, 4) (oneRow "\x00"), by decide +kernel⟩, rfl,
    by decide +kernel, by decide⟩

end CubridDriver
