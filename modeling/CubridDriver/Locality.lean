import CubridDriver.Readers
import CubridDriver.Response
import CubridDriver.Lib.Alike

/-!
# The parsers see what is left

A reader knows its whole packet and its position, but a parser only ever looks at what is
left. On two packets that go on with the same bytes it behaves the same: it returns the
same value or the same error, and leaves the same bytes. `CubridDriver.Local` says so of a
parser, and it holds of every parser of a section.
-/

namespace CubridDriver

open Checked PacketReader

/-- The same bytes are left. -/
def SameRest (r r' : PacketReader) : Prop := r.Valid ∧ r'.Valid ∧ r.rest = r'.rest

theorem SameRest.remaining_eq {r r' : PacketReader} (h : SameRest r r') :
    r.remaining = r'.remaining := by
  rw [← length_rest, ← length_rest, h.2.2]

theorem SameRest.advance {r r' : PacketReader} (h : SameRest r r') {count : ℕ}
    (hcount : count ≤ r.remaining) : SameRest (r.advance count) (r'.advance count) := by
  refine ⟨valid_advance h.1 hcount, valid_advance h.2.1 (h.remaining_eq ▸ hcount), ?_⟩
  rw [rest_advance, rest_advance, h.2.2]

/-- The parser does not look at anything but what is left. -/
abbrev Local {α : Type} (p : Parser α) : Prop := Alike SameRest p p

section Local

variable {α : Type}

/-! ### Fields -/

theorem local_parseField (count : ℕ) (decode : List UInt8 → α) :
    Local (parseField count decode) := by
  intro r r' h
  rw [parseField_apply h.1, parseField_apply h.2.1, ← h.remaining_eq, ← h.2.2]
  split
  · exact .ok (h.advance ‹_›)
  · exact .err

theorem local_skip (count : ℕ) : Local (skip count) := by
  intro r r' h
  rw [skip_apply h.1, skip_apply h.2.1, ← h.remaining_eq]
  split
  · exact .ok (h.advance ‹_›)
  · exact .err

theorem local_getRemaining : Local getRemaining := by
  intro r r' h
  rw [getRemaining, getRemaining, h.remaining_eq]
  exact .ok h

theorem local_parseByte : Local parseByte := local_parseField _ _

theorem local_parseShort : Local parseShort := local_parseField _ _

theorem local_parseInt : Local parseInt := local_parseField _ _

theorem local_parseNullTermString (length : ℕ) : Local (parseNullTermString length) :=
  alike_ite (alike_pure _) (alike_bind (local_parseField _ _) fun _ => alike_lift _)

theorem local_readError (responseLength : ℕ) : Local (readError responseLength) := by
  refine alike_bind local_parseInt fun code => alike_bind ?_ fun _ => alike_pure _
  exact alike_ite (local_parseNullTermString _) (alike_pure _)

theorem local_failWithServerError : Local (failWithServerError : Parser α) :=
  alike_bind local_getRemaining fun _ => alike_bind (local_readError _) fun _ => alike_throw _

theorem local_parseResponseCode : Local parseResponseCode := by
  refine alike_bind (local_parseField _ _) fun casInfo => alike_bind local_parseInt fun code => ?_
  exact alike_ite local_failWithServerError (alike_pure _)

/-! ### Columns and result infos -/

theorem local_parseLengthString : Local parseLengthString :=
  alike_bind local_parseInt fun _ => local_parseNullTermString _

theorem local_parseColumnType : Local parseColumnType :=
  alike_bind local_parseByte fun _ => alike_ite local_parseByte (alike_pure _)

theorem local_parseColumn : Local parseColumn := by
  refine alike_bind local_parseColumnType fun colType => ?_
  split
  · exact alike_throw _
  · refine alike_bind local_parseShort fun scale => ?_
    refine alike_bind local_parseInt fun precision => ?_
    refine alike_bind local_parseLengthString fun name => ?_
    refine alike_bind local_parseLengthString fun realName => ?_
    refine alike_bind local_parseLengthString fun tableName => ?_
    refine alike_bind local_parseByte fun isNullable => ?_
    refine alike_bind local_parseLengthString fun defaultValue => ?_
    refine alike_bind local_parseByte fun isAutoIncrement => ?_
    refine alike_bind local_parseByte fun isUniqueKey => ?_
    refine alike_bind local_parseByte fun isPrimaryKey => ?_
    refine alike_bind local_parseByte fun _ => ?_
    refine alike_bind local_parseByte fun _ => ?_
    refine alike_bind local_parseByte fun isForeignKey => ?_
    exact alike_bind local_parseByte fun _ => alike_pure _

theorem local_parseColumnMetadata (count : Int32) : Local (parseColumnMetadata count) := by
  refine alike_bind (alike_lift _) fun _ => ?_
  exact alike_bind (alike_repeatM local_parseColumn _) fun cols => alike_lift _

theorem local_parseResultInfo : Local parseResultInfo := by
  refine alike_bind local_parseByte fun stmtTypeByte => ?_
  refine alike_bind local_parseInt fun resultCount => ?_
  refine alike_bind (local_parseField _ _) fun oid => ?_
  exact alike_bind local_parseInt fun _ => alike_bind local_parseInt fun _ => alike_pure _

theorem local_parseResultInfos (count : Int32) : Local (parseResultInfos count) :=
  alike_bind (alike_lift _) fun _ => alike_repeatM local_parseResultInfo _

/-! ### Rows -/

theorem local_readValue (t : DataType) (size : ℕ) : Local (readValue t size) := by
  have hdate : Local parseDate := by
    refine alike_bind local_parseShort fun year => alike_bind local_parseShort fun month => ?_
    exact alike_bind local_parseShort fun day => alike_pure _
  have htime : Local parseTime := by
    refine alike_bind local_parseShort fun hour => alike_bind local_parseShort fun minute => ?_
    exact alike_bind local_parseShort fun second => alike_pure _
  have htimestamp : Local parseTimestamp := by
    refine alike_bind local_parseShort fun year => alike_bind local_parseShort fun month => ?_
    refine alike_bind local_parseShort fun day => alike_bind local_parseShort fun hour => ?_
    refine alike_bind local_parseShort fun minute => ?_
    exact alike_bind local_parseShort fun second => alike_pure _
  have hdatetime : Local parseDatetime := by
    refine alike_bind local_parseShort fun year => alike_bind local_parseShort fun month => ?_
    refine alike_bind local_parseShort fun day => alike_bind local_parseShort fun hour => ?_
    refine alike_bind local_parseShort fun minute => alike_bind local_parseShort fun second => ?_
    exact alike_bind local_parseShort fun ms => alike_pure _
  cases t with
  | null => exact alike_pure _
  | date => exact alike_bind hdate fun _ => alike_pure _
  | time => exact alike_bind htime fun _ => alike_pure _
  | timestamp => exact alike_bind htimestamp fun _ => alike_pure _
  | datetime => exact alike_bind hdatetime fun _ => alike_pure _
  | char | string | nchar | varNChar | enum | numeric =>
    exact alike_bind (local_parseNullTermString _) fun _ => alike_pure _
  | _ => exact alike_bind (local_parseField _ _) fun _ => alike_pure _

theorem local_readCell (isCallType : Bool) (col : ColumnMetaData) :
    Local (readCell isCallType col) := by
  refine alike_bind local_parseInt fun size => alike_ite (alike_pure _) (alike_ite ?_ ?_)
  · refine alike_bind local_parseByte fun typeByte => ?_
    refine alike_bind (alike_lift _) fun actualSize => alike_ite (alike_pure _) ?_
    split
    · exact local_readValue _ _
    · exact alike_bind (local_parseField _ _) fun _ => alike_pure _
  · exact local_readValue _ _

theorem local_parseRow (isCallType : Bool) (columns : Columns) :
    Local (parseRow isCallType columns) := by
  refine alike_bind local_parseInt fun _ => alike_bind (local_skip _) fun _ => ?_
  exact alike_bind (alike_lift _) fun _ => alike_forEach (local_readCell isCallType) _

theorem local_parseRowData (tupleCount : Int32) (columns : Columns) (stmtType : StatementType) :
    Local (parseRowData tupleCount columns stmtType) :=
  alike_bind (alike_lift _) fun _ => alike_repeatM (local_parseRow _ columns) _

theorem local_skipIf (c : Bool) {field : Parser α} (h : Local field) : Local (skipIf c field) :=
  alike_ite (alike_bind h fun _ => alike_pure _) (alike_pure _)

theorem local_skipVersionFields (protoVersion : Int32) : Local (skipVersionFields protoVersion) :=
  alike_bind (local_skipIf _ local_parseByte) fun _ => local_skipIf _ local_parseInt

theorem local_parseInlineRows (columns : Columns) (stmtType : StatementType) (skipEmpty : Bool) :
    Local (parseInlineRows columns stmtType skipEmpty) := by
  refine alike_bind local_getRemaining fun left => alike_ite ?_ (alike_pure _)
  refine alike_bind local_parseInt fun _ => alike_bind local_parseInt fun tupleCount => ?_
  refine alike_ite ?_ (alike_pure _)
  exact alike_bind (local_parseRowData _ columns stmtType) fun _ => alike_pure _

end Local

end CubridDriver
