import CubridDriver.Lib.Delimited
import CubridDriver.Readers
import CubridDriver.Response

/-!
# Sections

A response is a sequence of sections: column descriptions, result infos, rows. Where one of
them ends is not written anywhere. It ends where its parser stops reading.

`CubridDriver.Section.parse_delimits` says that this is a place that is well defined. What
follows a section has no influence on what it is parsed to, nor on where it ends; and a
section that is cut short is not taken for a whole one, wherever it is cut.
-/

namespace CubridDriver

open Checked PacketReader PacketWriter

/-- What the parser has read delimits itself. -/
abbrev Delimits {α : Type} (p : Parser α) : Prop := Delimited Valid rest p

section Delimits

variable {α : Type}

/-! ### Fields -/

/-- **A field is all of its bytes.** -/
theorem delimits_parseField (count : ℕ) (decode : List UInt8 → α) :
    Delimits (parseField count decode) := by
  intro r a t hr h
  rw [parseField_apply hr] at h
  split at h
  · obtain ⟨rfl, rfl⟩ := Prod.mk.inj (Outcome.ok.inj h)
    have hlen : (r.rest.take count).length = count := by
      rw [List.length_take, length_rest, Nat.min_eq_left ‹_›]
    refine ⟨valid_advance hr ‹_›, r.rest.take count, ?_, decodes_parseField decode hlen, ?_⟩
    · rw [rest_advance, List.take_append_drop]
    · intro r' hr' hpre hne
      have hshort : ¬count ≤ r'.remaining := by
        rw [← length_rest]
        exact fun hle => hne (hpre.eq_of_length_le (hlen.symm ▸ hle))
      exact ⟨_, by rw [parseField_apply hr', if_neg hshort]⟩
  · cases h

theorem delimits_skip (count : ℕ) : Delimits (skip count) :=
  delimited_congr (fun _ hr => skip_eq_parseField hr count) (delimits_parseField _ _)

theorem delimits_parseByte : Delimits parseByte := delimits_parseField _ _

theorem delimits_parseShort : Delimits parseShort := delimits_parseField _ _

theorem delimits_parseInt : Delimits parseInt := delimits_parseField _ _

theorem delimits_parseNullTermString (length : ℕ) : Delimits (parseNullTermString length) :=
  delimited_ite (delimited_pure _)
    (delimited_bind (delimits_parseField _ _) fun _ => delimited_lift _)

/-! ### Columns and result infos -/

theorem delimits_parseLengthString : Delimits parseLengthString :=
  delimited_bind delimits_parseInt fun _ => delimits_parseNullTermString _

theorem delimits_parseColumnType : Delimits parseColumnType :=
  delimited_bind delimits_parseByte fun _ => delimited_ite delimits_parseByte (delimited_pure _)

theorem delimits_parseColumn : Delimits parseColumn := by
  refine delimited_bind delimits_parseColumnType fun colType => ?_
  split
  · exact delimited_throw _
  · refine delimited_bind delimits_parseShort fun scale => ?_
    refine delimited_bind delimits_parseInt fun precision => ?_
    refine delimited_bind delimits_parseLengthString fun name => ?_
    refine delimited_bind delimits_parseLengthString fun realName => ?_
    refine delimited_bind delimits_parseLengthString fun tableName => ?_
    refine delimited_bind delimits_parseByte fun isNullable => ?_
    refine delimited_bind delimits_parseLengthString fun defaultValue => ?_
    refine delimited_bind delimits_parseByte fun isAutoIncrement => ?_
    refine delimited_bind delimits_parseByte fun isUniqueKey => ?_
    refine delimited_bind delimits_parseByte fun isPrimaryKey => ?_
    refine delimited_bind delimits_parseByte fun _ => ?_
    refine delimited_bind delimits_parseByte fun _ => ?_
    refine delimited_bind delimits_parseByte fun isForeignKey => ?_
    exact delimited_map _ delimits_parseByte

theorem delimits_parseColumnMetadata (count : Int32) : Delimits (parseColumnMetadata count) := by
  refine delimited_bind (delimited_lift _) fun _ => ?_
  exact delimited_bind (delimited_repeatM delimits_parseColumn _) fun cols => delimited_lift _

theorem delimits_parseResultInfo : Delimits parseResultInfo := by
  refine delimited_bind delimits_parseByte fun stmtTypeByte => ?_
  refine delimited_bind delimits_parseInt fun resultCount => ?_
  refine delimited_bind (delimits_parseField _ _) fun oid => ?_
  exact delimited_bind delimits_parseInt fun _ => delimited_map _ delimits_parseInt

theorem delimits_parseResultInfos (count : Int32) : Delimits (parseResultInfos count) :=
  delimited_bind (delimited_lift _) fun _ => delimited_repeatM delimits_parseResultInfo _

/-! ### Rows -/

theorem delimits_parseDate : Delimits parseDate := by
  refine delimited_bind delimits_parseShort fun year => ?_
  exact delimited_bind delimits_parseShort fun month => delimited_map _ delimits_parseShort

theorem delimits_parseTime : Delimits parseTime := by
  refine delimited_bind delimits_parseShort fun hour => ?_
  exact delimited_bind delimits_parseShort fun minute => delimited_map _ delimits_parseShort

theorem delimits_parseTimestamp : Delimits parseTimestamp := by
  refine delimited_bind delimits_parseShort fun year => ?_
  refine delimited_bind delimits_parseShort fun month => ?_
  refine delimited_bind delimits_parseShort fun day => ?_
  refine delimited_bind delimits_parseShort fun hour => ?_
  exact delimited_bind delimits_parseShort fun minute => delimited_map _ delimits_parseShort

theorem delimits_parseDatetime : Delimits parseDatetime := by
  refine delimited_bind delimits_parseShort fun year => ?_
  refine delimited_bind delimits_parseShort fun month => ?_
  refine delimited_bind delimits_parseShort fun day => ?_
  refine delimited_bind delimits_parseShort fun hour => ?_
  refine delimited_bind delimits_parseShort fun minute => ?_
  exact delimited_bind delimits_parseShort fun second => delimited_map _ delimits_parseShort

theorem delimits_readValue (t : DataType) (size : ℕ) : Delimits (readValue t size) := by
  cases t with
  | null => exact delimited_pure _
  | date => exact delimited_map _ delimits_parseDate
  | time => exact delimited_map _ delimits_parseTime
  | timestamp => exact delimited_map _ delimits_parseTimestamp
  | datetime => exact delimited_map _ delimits_parseDatetime
  | char | string | nchar | varNChar | enum | numeric =>
    exact delimited_map _ (delimits_parseNullTermString size)
  | _ => exact delimited_map _ (delimits_parseField _ _)

/-- The size and the tag of a cell choose how the rest of it is read, and both are read
before. -/
theorem delimits_readCell (isCallType : Bool) (col : ColumnMetaData) :
    Delimits (readCell isCallType col) := by
  refine delimited_bind delimits_parseInt fun size => ?_
  refine delimited_ite (delimited_pure _) (delimited_ite ?_ (delimits_readValue _ _))
  refine delimited_bind delimits_parseByte fun typeByte => ?_
  refine delimited_bind (delimited_lift _) fun actualSize => delimited_ite (delimited_pure _) ?_
  split
  · exact delimits_readValue _ _
  · exact delimited_map _ (delimits_parseField _ _)

theorem delimits_parseRow (isCallType : Bool) (columns : Columns) :
    Delimits (parseRow isCallType columns) := by
  refine delimited_bind delimits_parseInt fun _ => delimited_bind (delimits_skip _) fun _ => ?_
  refine delimited_bind (delimited_lift _) fun _ => ?_
  exact delimited_forEach (delimits_readCell isCallType) _

theorem delimits_parseRowData (tupleCount : Int32) (columns : Columns)
    (stmtType : StatementType) : Delimits (parseRowData tupleCount columns stmtType) :=
  delimited_bind (delimited_lift _) fun _ => delimited_repeatM (delimits_parseRow _ columns) _

end Delimits

/-! ### Sections -/

/-- A section of a response, with what its parser has to know. -/
inductive Section
  /-- Column descriptions, in this number. -/
  | columnMetadata (count : Int32)
  /-- Result infos, in this number. -/
  | resultInfos (count : Int32)
  /-- Rows, in this number, of these columns. -/
  | rowData (tupleCount : Int32) (columns : Columns) (stmtType : StatementType)

namespace Section

/-- What the section is parsed to. -/
def Value : Section → Type
  | columnMetadata _ => Columns
  | resultInfos _ => List ResultInfo
  | rowData .. => List Row

/-- The parser of the section. -/
def parse : (part : Section) → Parser part.Value
  | columnMetadata count => parseColumnMetadata count
  | resultInfos count => parseResultInfos count
  | rowData tupleCount columns stmtType => parseRowData tupleCount columns stmtType

theorem delimits_parse (part : Section) : Delimits part.parse := by
  cases part with
  | columnMetadata count => exact delimits_parseColumnMetadata count
  | resultInfos count => exact delimits_parseResultInfos count
  | rowData tupleCount columns stmtType => exact delimits_parseRowData tupleCount columns stmtType

/-- **A section delimits itself.** Let its parser return a value and have read `n` bytes.
Wherever these bytes stand, and whatever follows them, it returns the same value and has
read them. Where only fewer of them are left, it returns an error. -/
theorem parse_delimits (part : Section) {r t : PacketReader} {a : part.Value} (hr : r.Valid)
    (h : part.parse r = .ok (a, t)) : ∃ n, r.remaining = n + t.remaining ∧
      t.rest = r.rest.drop n ∧
      (∀ (r' : PacketReader) (tail : List UInt8), r'.Valid → r'.rest = r.rest.take n ++ tail →
        ∃ t', part.parse r' = .ok (a, t') ∧ t'.rest = tail) ∧
      ∀ (r' : PacketReader) (m : ℕ), r'.Valid → m < n → r'.rest = r.rest.take m →
        ∃ e, part.parse r' = .err e := by
  obtain ⟨-, w, hw, hreads, hshort⟩ := part.delimits_parse r a t hr h
  refine ⟨w.length, ?_, ?_, fun r' tail hr' hrest => ?_, fun r' m hr' hlt hrest => ?_⟩
  · rw [← length_rest, ← length_rest, hw, List.length_append]
  · rw [hw, List.drop_left]
  · rw [hw, List.take_left] at hrest
    obtain ⟨t', ht', -, htail⟩ := hreads r' tail hr' hrest
    exact ⟨t', ht', htail⟩
  · have hcut : r'.rest = w.take m := by
      rw [hrest, hw, List.take_append_of_le_length (Nat.le_of_lt hlt)]
    refine hshort r' hr' (hcut ▸ List.take_prefix m w) fun heq => ?_
    have hlen := congrArg List.length (hcut.symm.trans heq)
    rw [List.length_take] at hlen
    omega

/-- A result info. -/
def oneInfo : ResultInfo := ⟨.insert, 3, List.replicate SIZE_OID 0⟩

/-- The bytes of it. -/
def infoWord : List UInt8 :=
  [20] ++ (writeInt 3 ++ (List.replicate SIZE_OID 0 ++ (writeInt 0 ++ writeInt 0)))

/-- Without its last byte it is not read. -/
theorem parse_delimits_oneInfo :
    ∃ e, parseResultInfos 1 (.new ⟨infoWord.take 20, by decide⟩) = .err e := by
  have hread : parseResultInfos 1 (.new ⟨infoWord, by decide⟩) =
      .ok ([oneInfo], ⟨⟨infoWord, by decide⟩, 21⟩) := rfl
  obtain ⟨n, hn, -, -, hcut⟩ := parse_delimits (.resultInfos 1) (valid_new _) hread
  obtain rfl : 21 = n := hn
  exact hcut (.new ⟨infoWord.take 20, by decide⟩) 20 (valid_new _) (by decide) rfl

end Section

end CubridDriver
