import CubridDriver.Readers
import CubridDriver.Response

/-!
# When a response parser panics

A parser reads whatever the server sends, so it should answer any bytes with a record
or with an error. What stands in the way is the capacity of the vectors of columns and
of result infos: it is the count from the wire, cast to `usize`, and a negative count
becomes a capacity no allocation can have.

`CubridDriver.parsers_panic_iff` says that this is all: a parser panics exactly when it
reaches a negative count of columns or of result infos. Every other count and length is
checked, or checked in time.
-/

namespace CubridDriver

open Checked PacketReader

/-! ### The parts that are safe -/

/-- The error of the server is returned: there is no panic, and no value. -/
theorem failWithServerError_returns {α : Type} :
    Triple Valid (failWithServerError : Parser α) fun _ _ => False := by
  refine triple_bind safe_getRemaining fun n => ?_
  exact triple_bind (safe_readError n) fun _ => triple_throw _

theorem safe_parseResponseCode : Safe parseResponseCode := by
  refine safe_bind safe_parseCasInfo fun casInfo => safe_bind safe_parseInt fun code => ?_
  exact safe_ite (triple_mono failWithServerError_returns (fun _ hr => hr) fun _ _ => False.elim)
    (safe_return _)

theorem safe_parseLengthString : Safe parseLengthString :=
  safe_bind safe_parseInt fun _ => safe_parseNullTermString _

theorem safe_parseColumnType : Safe parseColumnType :=
  safe_bind safe_parseByte fun _ => safe_ite safe_parseByte (safe_return _)

theorem safe_parseColumn : Safe parseColumn := by
  refine safe_bind safe_parseColumnType fun colType => ?_
  split
  · exact safe_throw _
  · refine safe_bind safe_parseShort fun scale => ?_
    refine safe_bind safe_parseInt fun precision => ?_
    refine safe_bind safe_parseLengthString fun name => ?_
    refine safe_bind safe_parseLengthString fun realName => ?_
    refine safe_bind safe_parseLengthString fun tableName => ?_
    refine safe_bind safe_parseByte fun isNullable => ?_
    refine safe_bind safe_parseLengthString fun defaultValue => ?_
    refine safe_bind safe_parseByte fun isAutoIncrement => ?_
    refine safe_bind safe_parseByte fun isUniqueKey => ?_
    refine safe_bind safe_parseByte fun isPrimaryKey => ?_
    refine safe_bind safe_parseByte fun _ => ?_
    refine safe_bind safe_parseByte fun _ => ?_
    refine safe_bind safe_parseByte fun isForeignKey => ?_
    exact safe_bind safe_parseByte fun _ => safe_return _

theorem safe_parseResultInfo : Safe parseResultInfo := by
  refine safe_bind safe_parseByte fun stmtType => ?_
  refine safe_bind safe_parseInt fun resultCount => ?_
  refine safe_bind (safe_parseRawBytes _) fun oid => ?_
  refine safe_bind safe_parseInt fun _ => ?_
  exact safe_bind safe_parseInt fun _ => safe_return _

theorem safe_readValue (colType : DataType) (size : ℕ) : Safe (readValue colType size) := by
  cases colType with
  | null => exact safe_return _
  | char => exact safe_bind (safe_parseNullTermString _) fun _ => safe_return _
  | string => exact safe_bind (safe_parseNullTermString _) fun _ => safe_return _
  | nchar => exact safe_bind (safe_parseNullTermString _) fun _ => safe_return _
  | varNChar => exact safe_bind (safe_parseNullTermString _) fun _ => safe_return _
  | enum => exact safe_bind (safe_parseNullTermString _) fun _ => safe_return _
  | numeric => exact safe_bind (safe_parseNullTermString _) fun _ => safe_return _
  | int => exact safe_bind safe_parseInt fun _ => safe_return _
  | short => exact safe_bind safe_parseShort fun _ => safe_return _
  | bigint => exact safe_bind safe_parseLong fun _ => safe_return _
  | float => exact safe_bind safe_parseFloat fun _ => safe_return _
  | double => exact safe_bind safe_parseDouble fun _ => safe_return _
  | monetary => exact safe_bind safe_parseDouble fun _ => safe_return _
  | date => exact safe_bind safe_parseDate fun _ => safe_return _
  | time => exact safe_bind safe_parseTime fun _ => safe_return _
  | timestamp => exact safe_bind safe_parseTimestamp fun _ => safe_return _
  | datetime => exact safe_bind safe_parseDatetime fun _ => safe_return _
  | _ => exact safe_bind (safe_parseRawBytes _) fun _ => safe_return _

/-- A positive size stays a size. -/
theorem asUsize_pos {size : Int32} (h : ¬size ≤ 0) : 1 ≤ asUsize size := by
  have hpos : 0 < size.toInt := by simpa [Int32.le_iff_toInt_le] using h
  rw [asUsize_of_nonneg (by omega)]
  omega

theorem safe_readCell (isCallType : Bool) (col : ColumnMetaData) :
    Safe (readCell isCallType col) := by
  refine safe_bind safe_parseInt fun size => ?_
  refine triple_ite (fun _ => safe_return _) fun hsize => ?_
  refine safe_ite ?_ (safe_readValue _ _)
  refine safe_bind safe_parseByte fun typeByte => ?_
  have hsub : (Outcome.checkedSub (asUsize size) 1 : Outcome ProtocolError ℕ) ≠ .panic := by
    have := asUsize_pos hsize
    rw [ne_eq, Outcome.checkedSub_eq_panic]
    omega
  refine safe_bind (safe_lift hsub) fun actualSize => safe_ite (safe_return _) ?_
  split
  · exact safe_readValue _ _
  · exact safe_bind (safe_parseRawBytes _) fun _ => safe_return _

/-! ### Capacities -/

/-- A count below `2 ^ 31` fits any of the vectors. -/
theorem withCapacity_eq_ok {elemSize n : ℕ} (hsize : elemSize ≤ 2 ^ 31) (hn : n ≤ 2 ^ 31) :
    (withCapacity elemSize n : Outcome ProtocolError Unit) = .ok () := by
  have hmul : n * elemSize ≤ 2 ^ 31 * 2 ^ 31 := Nat.mul_le_mul hn hsize
  have hmax : 2 ^ 31 * 2 ^ 31 ≤ isizeMax := by decide
  rw [withCapacity, if_pos (Nat.le_trans hmul hmax)]

/-- A negative count panics. -/
theorem withCapacity_negative {elemSize : ℕ} {count : Int32} (hsize : 0 < elemSize)
    (h : count.toInt < 0) :
    (withCapacity elemSize (asUsize count) : Outcome ProtocolError Unit) = .panic := by
  have hhuge := isizeMax_lt_asUsize h
  have hmul : asUsize count ≤ asUsize count * elemSize := Nat.le_mul_of_pos_right _ hsize
  rw [withCapacity, if_neg (by omega)]

theorem asUsize_le {count : Int32} (h : 0 ≤ count.toInt) : asUsize count ≤ 2 ^ 31 := by
  have := count.toInt_lt
  rw [asUsize_of_nonneg h]
  omega

/-- **A count of columns that is not negative** does no harm. -/
theorem safe_parseColumnMetadata {count : Int32} (h : 0 ≤ count.toInt) :
    Safe (parseColumnMetadata count) := by
  have hcap : (withCapacity columnSize (asUsize count) : Outcome ProtocolError Unit) = .ok () :=
    withCapacity_eq_ok (by decide) (asUsize_le h)
  refine safe_bind (safe_lift (by simp [hcap])) fun _ => ?_
  refine triple_bind (triple_repeatM _ safe_parseColumn) fun cols => ?_
  rintro r ⟨hlen, hr⟩
  have hfit : cols.length * columnSize ≤ isizeMax := by
    have := count.toInt_lt
    rw [hlen, columnSize, isizeMax]
    omega
  have hvec : columnVec cols = .ok ⟨cols, hfit⟩ := dif_pos hfit
  exact safe_lift (by simp [hvec]) r hr

/-- **A negative count of columns** panics. -/
theorem parseColumnMetadata_negative {count : Int32} (h : count.toInt < 0) (r : PacketReader) :
    parseColumnMetadata count r = .panic := by
  rw [parseColumnMetadata, bind_apply, lift, withCapacity_negative (by decide) h]
  rfl

theorem safe_parseResultInfos {count : Int32} (h : 0 ≤ count.toInt) :
    Safe (parseResultInfos count) := by
  have hcap : (withCapacity resultInfoSize (asUsize count) : Outcome ProtocolError Unit) = .ok () :=
    withCapacity_eq_ok (by decide) (asUsize_le h)
  refine safe_bind (safe_lift (by simp [hcap])) fun _ => ?_
  exact triple_mono (triple_repeatM _ safe_parseResultInfo) (fun _ hr => hr) fun _ _ h => h.2

theorem parseResultInfos_negative {count : Int32} (h : count.toInt < 0) (r : PacketReader) :
    parseResultInfos count r = .panic := by
  rw [parseResultInfos, bind_apply, lift, withCapacity_negative (by decide) h]
  rfl

/-! ### Rows -/

/-- A row has as many values as there are columns, and these fit an allocation. -/
theorem withCapacity_columns (columns : Columns) :
    (withCapacity valueSize columns.1.length : Outcome ProtocolError Unit) = .ok () := by
  have hsize : columns.1.length * columnSize ≤ isizeMax := columns.2
  rw [withCapacity, if_pos]
  simp only [columnSize] at hsize
  simp only [valueSize]
  omega

theorem safe_parseRow (isCallType : Bool) (columns : Columns) :
    Safe (parseRow isCallType columns) := by
  refine safe_bind safe_parseInt fun _ => safe_bind (safe_skip _) fun _ => ?_
  refine safe_bind (safe_lift (by simp [withCapacity_columns])) fun _ => ?_
  exact triple_forEach _ fun col _ => safe_readCell _ col

theorem safe_parseRowData {tupleCount : Int32} (h : 0 ≤ tupleCount.toInt) (columns : Columns)
    (stmtType : StatementType) : Safe (parseRowData tupleCount columns stmtType) := by
  have hcap : (withCapacity rowSize (asUsize tupleCount) : Outcome ProtocolError Unit) = .ok () :=
    withCapacity_eq_ok (by decide) (asUsize_le h)
  refine safe_bind (safe_lift (by simp [hcap])) fun _ => ?_
  exact triple_mono (triple_repeatM _ (safe_parseRow _ _)) (fun _ hr => hr) fun _ _ h => h.2

theorem safe_skipIf {α : Type} (c : Bool) {field : Parser α} (h : Safe field) :
    Safe (skipIf c field) :=
  safe_ite (safe_bind h fun _ => safe_return _) (safe_return _)

theorem safe_skipVersionFields (protoVersion : Int32) : Safe (skipVersionFields protoVersion) :=
  safe_bind (safe_skipIf _ safe_parseByte) fun _ => safe_skipIf _ safe_parseInt

/-- The rows are read only when their count is positive. -/
theorem safe_parseInlineRows (columns : Columns) (stmtType : StatementType) (skipEmpty : Bool) :
    Safe (parseInlineRows columns stmtType skipEmpty) := by
  refine safe_bind safe_getRemaining fun left => safe_ite ?_ (safe_return _)
  refine safe_bind safe_parseInt fun _ => safe_bind safe_parseInt fun tupleCount => ?_
  refine triple_ite (fun hpos => ?_) fun _ => safe_return _
  have h0 : 0 ≤ tupleCount.toInt := by
    have : (0 : Int32) < tupleCount := hpos.1
    rw [Int32.lt_iff_toInt_lt, Int32.toInt_zero] at this
    omega
  exact safe_bind (safe_parseRowData h0 _ _) fun _ => safe_return _

/-! ### Where the counts are -/

/-- The 32-bit signed integer `i` bytes behind the position of a reader. -/
def PacketReader.intAt (r : PacketReader) (i : ℕ) : Option Int32 :=
  if i + 4 ≤ r.remaining then some (intOfBytes ((r.rest.drop i).take 4)) else none

section Position

variable {r : PacketReader}

theorem remaining_advance (r : PacketReader) (k : ℕ) :
    (r.advance k).remaining = r.remaining - k := by
  simp only [remaining, advance]
  omega

theorem intAt_advance (r : PacketReader) (i k : ℕ) : (r.advance k).intAt i = r.intAt (k + i) := by
  have hiff : i + 4 ≤ r.remaining - k ↔ k + i + 4 ≤ r.remaining := by omega
  simp only [intAt, remaining_advance, rest_advance, List.drop_drop, hiff]

theorem le_remaining_of_intAt {i : ℕ} {v : Int32} (h : r.intAt i = some v) :
    i + 4 ≤ r.remaining := by
  rw [intAt] at h
  split at h
  · assumption
  · cases h

/-- Behind a reader an int comes after `i` bytes, and `D` holds of it and of the reader
that stands behind it. -/
def AtInt (i : ℕ) (D : Int32 → PacketReader → Prop) (r : PacketReader) : Prop :=
  ∃ v, r.intAt i = some v ∧ D v (r.advance (i + 4))

theorem atInt_advance {i k : ℕ} {D : Int32 → PacketReader → Prop} :
    k ≤ r.remaining ∧ AtInt i D (r.advance k) ↔ AtInt (k + i) D r := by
  have hmove : ∀ j, (r.advance k).advance j = r.advance (k + j) := fun j => by
    simp only [advance, Nat.add_assoc]
  simp only [AtInt, intAt_advance, hmove, ← Nat.add_assoc]
  constructor
  · exact fun h => h.2
  · rintro ⟨v, hv, hD⟩
    have := le_remaining_of_intAt hv
    exact ⟨by omega, v, hv, hD⟩

end Position

/-! ### Where a parser panics -/

/-- The parser panics exactly from the valid readers with `C`. -/
def PanicsOn {α : Type} (p : Parser α) (C : PacketReader → Prop) : Prop :=
  ∀ r, r.Valid → (p r = .panic ↔ C r)

section PanicsOn

variable {α β : Type} {p : Parser α} {C : PacketReader → Prop}

theorem Safe.panicsOn (h : Safe p) : PanicsOn p fun _ => False :=
  fun r hr => iff_of_false (h r hr).1 not_false

/-- Behind something safe. -/
theorem panicsOn_bind {f : α → Parser β} {D : α → PacketReader → Prop} (hp : Safe p)
    (hf : ∀ a, PanicsOn (f a) (D a)) :
    PanicsOn (p >>= f) fun r => ∃ a t, p r = .ok (a, t) ∧ D a t := by
  intro r hr
  rw [bind_apply, Outcome.bind_eq_panic]
  constructor
  · rintro (h | ⟨⟨a, t⟩, ha, hpanic⟩)
    · exact absurd h (hp r hr).1
    · exact ⟨a, t, ha, (hf a t ((hp r hr).2 a t ha)).mp hpanic⟩
  · rintro ⟨a, t, ha, hD⟩
    exact Or.inr ⟨(a, t), ha, (hf a t ((hp r hr).2 a t ha)).mpr hD⟩

/-- Behind an int. -/
theorem panicsOn_int {f : Int32 → Parser α} {D : Int32 → PacketReader → Prop}
    (hf : ∀ v, PanicsOn (f v) (D v)) : PanicsOn (parseInt >>= f) (AtInt 0 D) := by
  intro r hr
  rw [parseInt, parseField_bind_eq_panic hr, AtInt, intAt]
  by_cases h : 4 ≤ r.remaining
  · simpa [h] using hf _ _ (valid_advance hr h)
  · simp [h]

/-- Behind a field whose value does not matter. -/
theorem panicsOn_field {i k : ℕ} {decode : List UInt8 → β} {f : β → Parser α}
    {D : Int32 → PacketReader → Prop} (hf : ∀ b, PanicsOn (f b) (AtInt i D)) :
    PanicsOn (parseField k decode >>= f) (AtInt (k + i) D) := by
  intro r hr
  rw [parseField_bind_eq_panic hr, ← atInt_advance]
  exact and_congr_right fun h => hf _ _ (valid_advance hr h)

/-- The response code is not negative. -/
def Accepted (r : PacketReader) : Prop := ∃ code, r.intAt 4 = some code ∧ 0 ≤ code.toInt

/-- Behind the response code: a response that announces an error is not read further. -/
theorem panicsOn_responseCode {i : ℕ} {f : CasInfo × Int32 → Parser α}
    {D : Int32 → PacketReader → Prop} (hf : ∀ x, PanicsOn (f x) (AtInt i D)) :
    PanicsOn (parseResponseCode >>= f) fun r => Accepted r ∧ AtInt (8 + i) D r := by
  -- a negative code ends in an error: `failWithServerError` returns nothing to go on with
  have hbranch : ∀ casInfo code, PanicsOn
      ((if code < 0 then failWithServerError else return (casInfo, code)) >>= f)
      fun t => 0 ≤ code.toInt ∧ AtInt i D t := by
    intro casInfo code t ht
    have hcode : code < 0 ↔ code.toInt < 0 := by
      rw [Int32.lt_iff_toInt_lt, Int32.toInt_zero]
    split
    · rename_i hneg
      have hneg := hcode.mp hneg
      have hsafe : Safe (failWithServerError >>= f) :=
        triple_bind failWithServerError_returns fun _ _ hfalse => hfalse.elim
      refine iff_of_false (hsafe t ht).1 fun h => ?_
      exact absurd h.1 (by omega)
    · rename_i hpos
      have hpos := mt hcode.mpr hpos
      rw [pure_bind, hf _ t ht]
      exact (and_iff_right (by omega)).symm
  have hseq : parseResponseCode >>= f = parseCasInfo >>= fun casInfo => parseInt >>= fun code =>
      (if code < 0 then failWithServerError else return (casInfo, code)) >>= f := by
    simp only [parseResponseCode, bind_assoc]
  have hpanics : PanicsOn (parseResponseCode >>= f)
      (AtInt 4 fun code t => 0 ≤ code.toInt ∧ AtInt i D t) :=
    hseq ▸ panicsOn_field fun casInfo => panicsOn_int fun code => hbranch casInfo code
  intro r hr
  refine (hpanics r hr).trans ⟨?_, ?_⟩
  · rintro ⟨code, hcode, hpos, hrest⟩
    exact ⟨⟨code, hcode, hpos⟩, atInt_advance.mp ⟨le_remaining_of_intAt hcode, hrest⟩⟩
  · rintro ⟨⟨code, hcode, hpos⟩, hrest⟩
    exact ⟨code, hcode, hpos, (atInt_advance.mpr hrest).2⟩

end PanicsOn

/-! ### The parsers -/

theorem map_fst_eq_panic {α : Type} {p : Parser α} {r : PacketReader} :
    (Prod.fst <$> p r : Outcome ProtocolError α) = .panic ↔ p r = .panic := by
  cases p r <;> simp [Functor.map, Outcome.bind]

/-- Behind the count of columns. -/
theorem panicsOn_columns {α : Type} {f : Columns → Parser α} {C : Columns → PacketReader → Prop}
    (hf : ∀ cols, PanicsOn (f cols) (C cols)) (count : Int32) :
    PanicsOn (parseColumnMetadata count >>= f) fun r =>
      count.toInt < 0 ∨ ∃ cols t, parseColumnMetadata count r = .ok (cols, t) ∧ C cols t := by
  intro r hr
  by_cases hneg : count.toInt < 0
  · refine iff_of_true ?_ (Or.inl hneg)
    rw [bind_apply, parseColumnMetadata_negative hneg]
    rfl
  · rw [panicsOn_bind (safe_parseColumnMetadata (by omega)) hf r hr]
    exact (or_iff_right hneg).symm

/-- Behind the count of result infos. -/
theorem panicsOn_resultInfos {α : Type} {f : List ResultInfo → Parser α}
    (hf : ∀ infos, Safe (f infos)) (count : Int32) :
    PanicsOn (parseResultInfos count >>= f) fun _ => count.toInt < 0 := by
  intro r hr
  by_cases hneg : count.toInt < 0
  · refine iff_of_true ?_ hneg
    rw [bind_apply, parseResultInfos_negative hneg]
    rfl
  · exact iff_of_false (safe_bind (safe_parseResultInfos (by omega)) hf r hr).1 hneg

/-- The response is accepted, and its count of columns is negative. -/
def NegativeColumnCount (data : Bytes) : Prop :=
  Accepted (.new data) ∧ ∃ count, (PacketReader.new data).intAt 18 = some count ∧ count.toInt < 0

/-- The response is accepted, its columns are well formed, and the count of result infos
behind them is negative. -/
def NegativeResultCount (data : Bytes) : Prop :=
  Accepted (.new data) ∧ ∃ count cols t count', (PacketReader.new data).intAt 18 = some count ∧
    parseColumnMetadata count ((PacketReader.new data).advance 22) = .ok (cols, t) ∧
    t.intAt 5 = some count' ∧ count'.toInt < 0

theorem parsePrepare_eq_panic (data : Bytes) :
    parsePrepare data = .panic ↔ NegativeColumnCount data := by
  have hgo : PanicsOn parsePrepare.go fun r =>
      Accepted r ∧ AtInt (8 + (4 + (1 + (4 + (1 + 0))))) (fun count _ => count.toInt < 0) r := by
    refine panicsOn_responseCode fun x => panicsOn_field fun _ => panicsOn_field fun _ => ?_
    refine panicsOn_field fun _ => panicsOn_field fun _ => panicsOn_int fun count => ?_
    intro r hr
    rw [panicsOn_columns (fun cols => (safe_return _).panicsOn) count r hr]
    simp
  rw [parsePrepare, map_fst_eq_panic, hgo _ (valid_new data)]
  rfl

theorem parsePrepareAndExecute_eq_panic (data : Bytes) (protoVersion : Int32) :
    parsePrepareAndExecute data protoVersion = .panic ↔
      NegativeColumnCount data ∨ NegativeResultCount data := by
  -- the column count stands behind 18 bytes, eight of them the response code; where the
  -- second count stands depends on the columns
  have hgo : PanicsOn (parsePrepareAndExecute.go protoVersion) fun r =>
      Accepted r ∧ AtInt (8 + (4 + (1 + (4 + (1 + 0))))) (fun count r => count.toInt < 0 ∨
        ∃ cols t, parseColumnMetadata count r = .ok (cols, t) ∧
          AtInt (4 + (1 + 0)) (fun count' _ => count'.toInt < 0) t) r := by
    refine panicsOn_responseCode fun x => panicsOn_field fun _ => panicsOn_field fun _ => ?_
    refine panicsOn_field fun _ => panicsOn_field fun _ => panicsOn_int fun count => ?_
    refine panicsOn_columns (fun cols => ?_) count
    refine panicsOn_field fun _ => panicsOn_field fun _ => panicsOn_int fun count' => ?_
    refine panicsOn_resultInfos (fun infos => ?_) count'
    refine safe_bind (safe_skipVersionFields _) fun _ => ?_
    exact safe_bind (safe_parseInlineRows _ _ _) fun _ => safe_return _
  rw [parsePrepareAndExecute, map_fst_eq_panic, hgo _ (valid_new data)]
  simp only [AtInt, NegativeColumnCount, NegativeResultCount]
  constructor
  · rintro ⟨hok, count, hcount, hneg | ⟨cols, t, hcols, count', hcount', hneg⟩⟩
    · exact Or.inl ⟨hok, count, hcount, hneg⟩
    · exact Or.inr ⟨hok, count, cols, t, count', hcount, hcols, hcount', hneg⟩
  · rintro (⟨hok, count, hcount, hneg⟩ |
      ⟨hok, count, cols, t, count', hcount, hcols, hcount', hneg⟩)
    · exact ⟨hok, count, hcount, Or.inl hneg⟩
    · exact ⟨hok, count, hcount, Or.inr ⟨cols, t, hcols, count', hcount', hneg⟩⟩

theorem parseExecute_eq_panic (data : Bytes) (columns : Columns) (stmtType : StatementType)
    (protoVersion : Int32) :
    parseExecute data columns stmtType protoVersion = .panic ↔ Accepted (.new data) ∧
      ∃ count, (PacketReader.new data).intAt 9 = some count ∧ count.toInt < 0 := by
  have hgo : PanicsOn (parseExecute.go columns stmtType protoVersion) fun r =>
      Accepted r ∧ AtInt (8 + (1 + 0)) (fun count _ => count.toInt < 0) r := by
    refine panicsOn_responseCode fun x => panicsOn_field fun _ => panicsOn_int fun count => ?_
    refine panicsOn_resultInfos (fun infos => ?_) count
    refine safe_bind (safe_skipVersionFields _) fun _ => ?_
    exact safe_bind (safe_parseInlineRows _ _ _) fun _ => safe_return _
  rw [parseExecute, map_fst_eq_panic, hgo _ (valid_new data)]
  rfl

/-- A parser whose fields are safe does not panic. -/
theorem map_fst_ne_panic {α : Type} {p : Parser α} (h : Safe p) (data : Bytes) :
    (Prod.fst <$> p (.new data) : Outcome ProtocolError α) ≠ .panic :=
  mt map_fst_eq_panic.mp (h _ (valid_new data)).1

theorem parseFetch_ne_panic (data : Bytes) (columns : Columns) (stmtType : StatementType) :
    parseFetch data columns stmtType ≠ .panic := by
  refine map_fst_ne_panic (safe_bind safe_parseResponseCode fun x => ?_) data
  refine safe_bind safe_parseInt fun tupleCount => safe_bind ?_ fun _ => safe_return _
  refine triple_ite (fun hpos => safe_parseRowData ?_ _ _) fun _ => safe_return _
  have : (0 : Int32) < tupleCount := hpos.1
  rw [Int32.lt_iff_toInt_lt, Int32.toInt_zero] at this
  omega

theorem parseGetLastInsertId_ne_panic (data : Bytes) : parseGetLastInsertId data ≠ .panic := by
  refine map_fst_ne_panic (safe_bind safe_parseResponseCode fun x => ?_) data
  refine safe_bind (safe_ite (safe_parseNullTermString _) (safe_return _)) fun _ => safe_return _

theorem parseSimpleResponse_ne_panic (data : Bytes) : parseSimpleResponse data ≠ .panic := by
  have hsafe := (safe_parseResponseCode (.new data) (valid_new data)).1
  rw [parseSimpleResponse]
  cases h : parseResponseCode (.new data) with
  | ok x => nofun
  | err e => nofun
  | panic => exact absurd h hsafe

/-- The version byte is one of the sixteen bytes that have been read. -/
theorem parseOpenDatabase_ne_panic (data : Bytes) : parseOpenDatabase data ≠ .panic := by
  refine map_fst_ne_panic (safe_bind safe_parseResponseCode fun x => ?_) data
  refine triple_bind (triple_parseRawBytes SIZE_BROKER_INFO) fun brokerBytes => ?_
  rintro r ⟨hlen, hr⟩
  have hindex : indexByte brokerBytes 4 ≠ .panic := by
    have hlt : 4 < brokerBytes.length := by
      rw [hlen]
      decide
    rw [indexByte, List.getElem?_eq_getElem hlt]
    nofun
  exact safe_bind (safe_lift hindex) (fun _ => safe_bind safe_parseInt fun _ => safe_return _) r hr

theorem parseGetDbVersion_ne_panic (data : Bytes) : parseGetDbVersion data ≠ .panic := by
  refine map_fst_ne_panic (safe_bind safe_parseResponseCode fun x => ?_) data
  refine safe_bind safe_getRemaining fun n => ?_
  exact safe_bind (safe_ite (safe_parseNullTermString _) (safe_return _)) fun _ => safe_return _

/-- **When the response parsers panic**: on a negative count of columns, or of result
infos, and never otherwise. -/
theorem parsers_panic_iff (data : Bytes) (protoVersion : Int32) (columns : Columns)
    (stmtType : StatementType) :
    (parsePrepareAndExecute data protoVersion = .panic ↔
      NegativeColumnCount data ∨ NegativeResultCount data) ∧
    (parsePrepare data = .panic ↔ NegativeColumnCount data) ∧
    (parseExecute data columns stmtType protoVersion = .panic ↔ Accepted (.new data) ∧
      ∃ count, (PacketReader.new data).intAt 9 = some count ∧ count.toInt < 0) ∧
    parseFetch data columns stmtType ≠ .panic ∧ parseGetLastInsertId data ≠ .panic ∧
    parseOpenDatabase data ≠ .panic ∧ parseGetDbVersion data ≠ .panic :=
  ⟨parsePrepareAndExecute_eq_panic data protoVersion, parsePrepare_eq_panic data,
    parseExecute_eq_panic data columns stmtType protoVersion,
    parseFetch_ne_panic data columns stmtType, parseGetLastInsertId_ne_panic data,
    parseOpenDatabase_ne_panic data, parseGetDbVersion_ne_panic data⟩

/-- A well-formed response up to the count of columns, which is `-1`. -/
def negativeColumnCountResponse : Bytes :=
  ⟨[1, 2, 3, 4, 0, 0, 0, 1, 0, 0, 0, 0, 21, 0, 0, 0, 0, 0, 255, 255, 255, 255], by decide⟩

/-- A response that announces `-1` columns makes two of the parsers panic. -/
theorem parsePrepare_negativeColumnCount :
    parsePrepare negativeColumnCountResponse = .panic ∧
      parsePrepareAndExecute negativeColumnCountResponse 7 = .panic := by
  constructor <;> rfl

end CubridDriver
