import CubridDriver.Fetch

/-!
# Cells and their sizes

A cell of a row is a size field and as many bytes as it says, so the next cell starts at
an offset the sizes alone determine. The parser keeps to the size of a string and of raw
bytes. For a type of fixed width it reads that width, whatever the size is, and for a
value tagged as `NULL` nothing. Where width and size differ it goes on at another offset,
and what it finds there often parses.

`CubridDriver.parseRowData_aligned_iff` says when the offsets are right: exactly when the
size of each cell fits the type of its value.
-/

namespace CubridDriver

open Checked PacketReader PacketWriter

/-! ### How much a parser reads -/

section Consumes

variable {α β : Type} {p : Parser α} {m n : ℕ}

theorem advance_advance (r : PacketReader) (m n : ℕ) :
    (r.advance m).advance n = r.advance (m + n) := by
  simp only [advance, Nat.add_assoc]

theorem advance_inj {r : PacketReader} : r.advance m = r.advance n ↔ m = n := by
  refine ⟨fun h => ?_, congrArg _⟩
  have hpos : r.pos + m = r.pos + n := congrArg PacketReader.pos h
  omega

/-- From a valid position the parser reads `n` bytes, if it returns a value. -/
def Consumes (p : Parser α) (n : ℕ) : Prop :=
  ∀ r, r.Valid → ∀ a t, p r = .ok (a, t) → t = r.advance n ∧ t.Valid

theorem consumes_pure (a : α) : Consumes (pure a) 0 := by
  intro r hr b t h
  obtain ⟨-, rfl⟩ := Prod.mk.inj (Outcome.ok.inj h)
  exact ⟨rfl, hr⟩

theorem consumes_field (count : ℕ) (decode : List UInt8 → α) :
    Consumes (parseField count decode) count := by
  intro r hr a t h
  rw [parseField_apply hr] at h
  split at h
  · obtain ⟨-, rfl⟩ := Prod.mk.inj (Outcome.ok.inj h)
    exact ⟨rfl, valid_advance hr ‹_›⟩
  · cases h

theorem consumes_lift (x : Outcome ProtocolError α) : Consumes (Checked.lift x) 0 := by
  intro r hr a t h
  obtain ⟨b, -, hb⟩ := Outcome.bind_eq_ok.mp h
  obtain ⟨-, rfl⟩ := Prod.mk.inj (Outcome.ok.inj hb)
  exact ⟨rfl, hr⟩

theorem consumes_bind {f : α → Parser β} (hp : Consumes p m) (hf : ∀ a, Consumes (f a) n) :
    Consumes (p >>= f) (m + n) := by
  intro r hr b t h
  obtain ⟨⟨a, s⟩, ha, hb⟩ := Outcome.bind_eq_ok.mp h
  obtain ⟨rfl, hs⟩ := hp r hr a s ha
  obtain ⟨rfl, ht⟩ := hf a _ hs b t hb
  exact ⟨advance_advance r m n, ht⟩

/-- A last step that reads nothing. -/
theorem consumes_map (g : α → β) (hp : Consumes p n) :
    Consumes (p >>= fun a => pure (g a)) n := consumes_bind hp fun _ => consumes_pure _

theorem consumes_string (length : ℕ) : Consumes (parseNullTermString length) length := by
  rw [parseNullTermString]
  split
  · obtain rfl : length = 0 := ‹_›
    exact consumes_pure ""
  · exact consumes_bind (consumes_field length id) fun _ => consumes_lift _

theorem consumes_parseShort : Consumes parseShort 2 := consumes_field 2 _

theorem consumes_parseDate : Consumes parseDate (2 + (2 + 2)) :=
  consumes_bind consumes_parseShort fun _ => consumes_bind consumes_parseShort fun _ =>
    consumes_map _ consumes_parseShort

theorem consumes_parseTime : Consumes parseTime (2 + (2 + 2)) :=
  consumes_bind consumes_parseShort fun _ => consumes_bind consumes_parseShort fun _ =>
    consumes_map _ consumes_parseShort

theorem consumes_parseTimestamp : Consumes parseTimestamp (2 + (2 + (2 + (2 + (2 + 2))))) :=
  consumes_bind consumes_parseShort fun _ => consumes_bind consumes_parseShort fun _ =>
    consumes_bind consumes_parseShort fun _ => consumes_bind consumes_parseShort fun _ =>
      consumes_bind consumes_parseShort fun _ => consumes_map _ consumes_parseShort

theorem consumes_parseDatetime : Consumes parseDatetime (2 + (2 + (2 + (2 + (2 + (2 + 2)))))) :=
  consumes_bind consumes_parseShort fun _ => consumes_bind consumes_parseShort fun _ =>
    consumes_bind consumes_parseShort fun _ => consumes_bind consumes_parseShort fun _ =>
      consumes_bind consumes_parseShort fun _ => consumes_bind consumes_parseShort fun _ =>
        consumes_map _ consumes_parseShort

end Consumes

/-! ### Sizes that fit -/

/-- The number of bytes of a value, where it is up to the type. -/
def DataType.width : DataType → Option ℕ
  | .short => some 2
  | .int | .float => some 4
  | .bigint | .double | .monetary => some 8
  | .date | .time => some 6
  | .timestamp => some 12
  | .datetime => some 14
  | .null => some 0
  | .char | .string | .nchar | .varNChar | .enum | .numeric => none
  | .bit | .varBit | .blob | .clob | .set | .multiset | .sequence | .object => none

/-- A value of the type may have this size: any, unless the type has a width. -/
def DataType.Fits (t : DataType) (size : ℕ) : Prop := t.width.getD size = size

/-- **What `readValue` reads**: the width of the type, where it has one. -/
theorem consumes_readValue (t : DataType) (size : ℕ) :
    Consumes (readValue t size) (t.width.getD size) := by
  cases t with
  | null => exact consumes_pure _
  | short => exact consumes_map _ consumes_parseShort
  | int => exact consumes_map _ (consumes_field 4 _)
  | bigint => exact consumes_map _ (consumes_field 8 _)
  | float => exact consumes_map _ (consumes_field 4 _)
  | double => exact consumes_map _ (consumes_field 8 _)
  | monetary => exact consumes_map _ (consumes_field 8 _)
  | date => exact consumes_map _ consumes_parseDate
  | time => exact consumes_map _ consumes_parseTime
  | timestamp => exact consumes_map _ consumes_parseTimestamp
  | datetime => exact consumes_map _ consumes_parseDatetime
  | char => exact consumes_map _ (consumes_string size)
  | string => exact consumes_map _ (consumes_string size)
  | nchar => exact consumes_map _ (consumes_string size)
  | varNChar => exact consumes_map _ (consumes_string size)
  | enum => exact consumes_map _ (consumes_string size)
  | numeric => exact consumes_map _ (consumes_string size)
  | _ => exact consumes_map _ (consumes_field size id)

/-! ### Cells -/

namespace PacketReader

/-- The bytes of the value of the next cell, by its size field; a size of zero or below
stands for `NULL`, and no bytes. -/
def declared (r : PacketReader) : ℕ := (intOfBytes (r.rest.take 4)).toInt.toNat

/-- Behind the next cell, as its size has it. -/
def behindCell (r : PacketReader) : PacketReader := r.advance (4 + r.declared)

/-- The type a tagged value starts with, if it is one. -/
def tag (r : PacketReader) : Option DataType := DataType.fromU8 ((r.rest.drop 4).headD 0)

end PacketReader

/-- The size of the next cell fits the type of its value, which is that of the column or,
in the result of a call and in a column of type `NULL`, the one the value is tagged with. -/
def CellFits (isCallType : Bool) (col : ColumnMetaData) (r : PacketReader) : Prop :=
  r.declared = 0 ∨
    if isCallType ∨ col.columnType = .null then
      r.declared = 1 ∨ ∀ t, r.tag = some t → t.Fits (r.declared - 1)
    else col.columnType.Fits r.declared

/-- How much the parser reads of the next cell. -/
def cellLength (isCallType : Bool) (col : ColumnMetaData) (r : PacketReader) : ℕ :=
  4 + if r.declared = 0 then 0
    else if isCallType ∨ col.columnType = .null then
      1 + if r.declared = 1 then 0
        else (r.tag.bind DataType.width).getD (r.declared - 1)
    else col.columnType.width.getD r.declared

/-- The size of the next cell, as the parser casts it. -/
theorem PacketReader.declared_spec (r : PacketReader) :
    (r.declared = 0 ↔ intOfBytes (r.rest.take 4) ≤ 0) ∧
      (¬intOfBytes (r.rest.take 4) ≤ 0 → asUsize (intOfBytes (r.rest.take 4)) = r.declared) := by
  rw [declared, Int32.le_iff_toInt_le, Int32.toInt_zero]
  exact ⟨by omega, fun h => asUsize_of_nonneg (by omega)⟩

/-- What reading a field has done. -/
theorem parseField_ok {α : Type} {r t : PacketReader} {count : ℕ} {decode : List UInt8 → α} {a : α}
    (hr : r.Valid) (h : parseField count decode r = .ok (a, t)) :
    a = decode (r.rest.take count) ∧ t = r.advance count ∧ t.Valid := by
  rw [parseField_apply hr] at h
  split at h
  · obtain ⟨rfl, rfl⟩ := Prod.mk.inj (Outcome.ok.inj h)
    exact ⟨rfl, rfl, valid_advance hr ‹_›⟩
  · cases h

/-- The byte behind the size field is read as the tag. -/
theorem fromU8_typeByte (r : PacketReader) :
    DataType.fromU8 (UInt8.ofNat (BigEndian.decode ((r.advance 4).rest.take 1))) = r.tag := by
  rw [rest_advance, tag]
  cases r.rest.drop 4 with
  | nil => rfl
  | cons b bs => simp [BigEndian.decode]

/-- What is read behind the tag of a value. -/
theorem consumes_tagged (tag : Option DataType) (size : ℕ) :
    Consumes (match tag with
      | some colType => readValue colType size
      | none => do return .bytes (← parseRawBytes size)) ((tag.bind DataType.width).getD size) := by
  cases tag with
  | some t => exact consumes_readValue t size
  | none => exact consumes_map _ (consumes_field size id)

/-- **What `readCell` reads.** -/
theorem readCell_advance {isCallType : Bool} {col : ColumnMetaData} {r t : PacketReader} {v : Value}
    (hr : r.Valid) (h : readCell isCallType col r = .ok (v, t)) :
    t = r.advance (cellLength isCallType col r) ∧ t.Valid := by
  obtain ⟨⟨size, s⟩, hsize, h⟩ := Outcome.bind_eq_ok.mp h
  obtain ⟨rfl, rfl, hs⟩ := parseField_ok hr hsize
  obtain ⟨hzero, hcast⟩ := r.declared_spec
  rw [cellLength, ← advance_advance]
  simp only at h
  split at h <;> rename_i hnull
  · rw [if_pos (hzero.mpr hnull)]
    exact consumes_pure _ _ hs _ _ h
  · rw [if_neg (mt hzero.mp hnull)]
    rw [hcast hnull] at h
    split at h <;> rename_i htagged
    -- the tag is read first; what it leaves of the size is for the value
    · obtain ⟨⟨typeByte, u⟩, hbyte, h⟩ := Outcome.bind_eq_ok.mp h
      obtain ⟨rfl, rfl, hu⟩ := parseField_ok hs hbyte
      obtain ⟨⟨_, _⟩, hsub, h⟩ := Outcome.bind_eq_ok.mp h
      obtain ⟨size, hsize, hlift⟩ := Outcome.bind_eq_ok.mp hsub
      obtain ⟨rfl, rfl⟩ := Prod.mk.inj (Outcome.ok.inj hlift)
      have hdeclared : r.declared = size + 1 := Outcome.checkedSub_eq_ok.mp hsize
      rw [if_pos htagged, hdeclared, Nat.add_sub_cancel, ← advance_advance]
      simp only [fromU8_typeByte] at h
      split at h
      · rw [if_pos (by omega)]
        exact consumes_pure _ _ hu _ _ h
      · rw [if_neg (by omega)]
        exact consumes_tagged _ _ _ hu _ _ h
    · rw [if_neg htagged]
      exact consumes_readValue _ _ _ hs _ _ h

/-- **A cell is read to its end** exactly when its size fits. -/
theorem cellLength_eq_iff {isCallType : Bool} {col : ColumnMetaData} {r : PacketReader} :
    cellLength isCallType col r = 4 + r.declared ↔ CellFits isCallType col r := by
  rw [cellLength, CellFits, Nat.add_left_cancel_iff]
  by_cases hzero : r.declared = 0
  · simp [hzero]
  · rw [if_neg hzero, or_iff_right hzero]
    split
    · by_cases hone : r.declared = 1
      · simp [hone]
      · rw [if_neg hone, or_iff_right hone]
        cases r.tag with
        | none => simp; omega
        | some t =>
          simp only [Option.bind_some, DataType.Fits, Option.some.injEq, forall_eq']
          omega
    · rfl

/-! ### Rows

The offsets twice: as the sizes give them, and as the parser finds them. -/

namespace PacketReader

/-- Behind the number and the object identifier of the next row. -/
def behindHead (r : PacketReader) : PacketReader := r.advance (SIZE_INT + SIZE_OID)

/-- Behind the next cells, one for each column. -/
def behindCells (columns : List ColumnMetaData) (r : PacketReader) : PacketReader :=
  columns.foldl (fun r _ => r.behindCell) r

/-- Behind the next rows. -/
def behindRows (columns : Columns) : ℕ → PacketReader → PacketReader
  | 0, r => r
  | n + 1, r => behindRows columns n (r.behindHead.behindCells columns.1)

/-- Where the cells of a row end, as the sizes have it. -/
def cellEnds : List ColumnMetaData → PacketReader → List PacketReader
  | [], _ => []
  | _ :: columns, r => r.behindCell :: cellEnds columns r.behindCell

/-- Where the cells of the next rows end, row by row, as the sizes have it. -/
def rowEnds (columns : Columns) : ℕ → PacketReader → List (List PacketReader)
  | 0, _ => []
  | n + 1, r =>
      r.behindHead.cellEnds columns.1 :: rowEnds columns n (r.behindHead.behindCells columns.1)

end PacketReader

/-- Where the parser is behind each cell of a row. -/
def parsedCellEnds (isCallType : Bool) : List ColumnMetaData → PacketReader → List PacketReader
  | [], _ => []
  | col :: columns, r =>
      match readCell isCallType col r with
      | .ok (_, t) => t :: parsedCellEnds isCallType columns t
      | _ => []

/-- Where the parser is behind each cell of the next rows, row by row. -/
def parsedRowEnds (isCallType : Bool) (columns : Columns) :
    ℕ → PacketReader → List (List PacketReader)
  | 0, _ => []
  | n + 1, r =>
      match parseRow isCallType columns r with
      | .ok (_, t) =>
          parsedCellEnds isCallType columns.1 r.behindHead :: parsedRowEnds isCallType columns n t
      | _ => []

/-- The sizes of the next cells fit, each at the offset the sizes before it give it. -/
def CellsFit (isCallType : Bool) : List ColumnMetaData → PacketReader → Prop
  | [], _ => True
  | col :: columns, r => CellFits isCallType col r ∧ CellsFit isCallType columns r.behindCell

/-- The sizes of all cells of the next rows fit. -/
def RowsFit (isCallType : Bool) (columns : Columns) : ℕ → PacketReader → Prop
  | 0, _ => True
  | n + 1, r =>
      CellsFit isCallType columns.1 r.behindHead ∧
        RowsFit isCallType columns n (r.behindHead.behindCells columns.1)

/-- **The cells of a row**: the parser is where the sizes have it as long as they fit. -/
theorem parsedCellEnds_eq_iff {isCallType : Bool} {columns : List ColumnMetaData} :
    ∀ {r t : PacketReader} {row : Row}, r.Valid →
      forEach (readCell isCallType) columns r = .ok (row, t) →
      (parsedCellEnds isCallType columns r = r.cellEnds columns ↔ CellsFit isCallType columns r) ∧
        (CellsFit isCallType columns r → t = r.behindCells columns) ∧ t.Valid := by
  induction columns with
  | nil =>
    intro r t row hr h
    obtain ⟨-, rfl⟩ := Prod.mk.inj (Outcome.ok.inj h)
    exact ⟨iff_of_true rfl trivial, fun _ => rfl, hr⟩
  | cons col columns ih =>
    intro r t row hr h
    obtain ⟨⟨v, s⟩, hcell, h⟩ := Outcome.bind_eq_ok.mp h
    obtain ⟨⟨vs, u⟩, hcells, h⟩ := Outcome.bind_eq_ok.mp h
    obtain ⟨-, rfl⟩ := Prod.mk.inj (Outcome.ok.inj h)
    obtain ⟨hs, hvalid⟩ := readCell_advance hr hcell
    obtain ⟨hends, hbehind, hu⟩ := ih hvalid hcells
    have hfits : s = r.behindCell ↔ CellFits isCallType col r := by
      rw [hs, behindCell, advance_inj, cellLength_eq_iff]
    rw [parsedCellEnds, hcell]
    simp only [cellEnds, CellsFit, List.cons.injEq, ← hfits]
    refine ⟨and_congr_right fun heq => ?_, fun ⟨heq, hrest⟩ => ?_, hu⟩
    · rw [← heq]
      exact hends
    · rw [← heq] at hrest
      rw [hbehind hrest, heq]
      rfl

/-- A row is its number, its object identifier and its cells. -/
theorem parseRow_eq_ok {isCallType : Bool} {columns : Columns} {r t : PacketReader} {row : Row}
    (hr : r.Valid) (h : parseRow isCallType columns r = .ok (row, t)) :
    r.behindHead.Valid ∧ forEach (readCell isCallType) columns.1 r.behindHead = .ok (row, t) := by
  obtain ⟨⟨_, r₁⟩, hint, h⟩ := Outcome.bind_eq_ok.mp h
  obtain ⟨-, rfl, hr₁⟩ := parseField_ok hr hint
  obtain ⟨⟨_, r₂⟩, hskip, h⟩ := Outcome.bind_eq_ok.mp h
  rw [skip_apply hr₁] at hskip
  split at hskip
  · obtain ⟨-, rfl⟩ := Prod.mk.inj (Outcome.ok.inj hskip)
    obtain ⟨⟨_, r₃⟩, hcap, h⟩ := Outcome.bind_eq_ok.mp h
    obtain ⟨_, -, hcap⟩ := Outcome.bind_eq_ok.mp hcap
    obtain ⟨-, rfl⟩ := Prod.mk.inj (Outcome.ok.inj hcap)
    rw [behindHead, ← advance_advance]
    exact ⟨valid_advance hr₁ ‹_›, h⟩
  · cases hskip

/-- **The rows**, by induction on their number. -/
theorem parsedRowEnds_eq_iff {isCallType : Bool} {columns : Columns} {n : ℕ} :
    ∀ {r t : PacketReader} {rows : List Row}, r.Valid →
      repeatM (parseRow isCallType columns) n r = .ok (rows, t) →
      (parsedRowEnds isCallType columns n r = r.rowEnds columns n ↔
          RowsFit isCallType columns n r) ∧
        (RowsFit isCallType columns n r → t = r.behindRows columns n) := by
  induction n with
  | zero =>
    intro r t rows _ h
    obtain ⟨-, rfl⟩ := Prod.mk.inj (Outcome.ok.inj h)
    exact ⟨iff_of_true rfl trivial, fun _ => rfl⟩
  | succ n ih =>
    intro r t rows hr h
    obtain ⟨⟨row, s⟩, hrow, h⟩ := Outcome.bind_eq_ok.mp h
    obtain ⟨⟨rest, u⟩, hrest, h⟩ := Outcome.bind_eq_ok.mp h
    obtain ⟨-, rfl⟩ := Prod.mk.inj (Outcome.ok.inj h)
    obtain ⟨hhead, hcells⟩ := parseRow_eq_ok hr hrow
    obtain ⟨hends, hbehind, hs⟩ := parsedCellEnds_eq_iff hhead hcells
    obtain ⟨hrows, hlast⟩ := ih hs hrest
    rw [parsedRowEnds, hrow]
    simp only [rowEnds, RowsFit, List.cons.injEq, hends]
    refine ⟨and_congr_right fun hfit => ?_, fun ⟨hfit, hfits⟩ => ?_⟩
    · rw [← hbehind hfit]
      exact hrows
    · rw [← hbehind hfit] at hfits
      rw [hlast hfits, hbehind hfit]
      rfl

/-- **When the cells are read within their sizes**: where the parser returns rows, it has
been behind each cell where the sizes of the cells before it say, and has read no more and
no less in the end, if and only if each size fits the type of its value. -/
theorem parseRowData_aligned_iff {tupleCount : Int32} {columns : Columns}
    {stmtType : StatementType} {r t : PacketReader} {rows : List Row} (hr : r.Valid)
    (h : parseRowData tupleCount columns stmtType r = .ok (rows, t)) :
    (parsedRowEnds stmtType.isCall columns tupleCount.toInt.toNat r =
          r.rowEnds columns tupleCount.toInt.toNat ∧
        t = r.behindRows columns tupleCount.toInt.toNat) ↔
      RowsFit stmtType.isCall columns tupleCount.toInt.toNat r := by
  obtain ⟨⟨_, s⟩, hcap, h⟩ := Outcome.bind_eq_ok.mp h
  obtain ⟨_, -, hcap⟩ := Outcome.bind_eq_ok.mp hcap
  obtain ⟨-, rfl⟩ := Prod.mk.inj (Outcome.ok.inj hcap)
  obtain ⟨hends, hlast⟩ := parsedRowEnds_eq_iff hr h
  exact ⟨fun hread => hends.mp hread.1, fun hfit => ⟨hends.mpr hfit, hlast hfit⟩⟩

/-- Two integer columns. -/
def twoColumns : Columns := ⟨[TwoRows.column, TwoRows.column], by decide⟩

/-- A reader that stands before one row of these columns: a cell that holds `7` and four
more bytes, and a cell that holds `9`. -/
def widePacket : PacketReader :=
  .new ⟨writeInt 1 ++ List.replicate SIZE_OID 0 ++ (writeInt 8 ++ writeInt 7 ++ writeInt 0) ++
    (writeInt 4 ++ writeInt 9), by decide⟩

/-- The four bytes are taken for the size of the second cell, which is read as `NULL`; the
reader stops where the second cell starts. -/
theorem parseRowData_misaligned : ∃ t, parseRowData 1 twoColumns .select widePacket =
      .ok ([[.int 7, .null]], t) ∧
    t ≠ widePacket.behindRows twoColumns 1 ∧
    parsedRowEnds false twoColumns 1 widePacket ≠ widePacket.rowEnds twoColumns 1 := by
  refine ⟨widePacket.advance 24, rfl, ?_, ?_⟩
  · exact fun h => absurd (congrArg PacketReader.pos h) (by decide)
  · exact fun h => absurd (congrArg (List.map (List.map PacketReader.pos)) h) (by decide)

/-- Not all of its sizes fit. -/
theorem parseRowData_aligned_iff_wide : ¬RowsFit false twoColumns 1 widePacket := by
  have hparse : parseRowData 1 twoColumns .select widePacket =
      .ok ([[.int 7, .null]], widePacket.advance 24) := rfl
  intro hfit
  have hread := (parseRowData_aligned_iff (valid_new _) hparse).mpr hfit
  exact absurd (congrArg PacketReader.pos hread.2) (by decide)

end CubridDriver
