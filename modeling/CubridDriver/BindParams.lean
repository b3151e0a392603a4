import CubridDriver.Arguments
import CubridDriver.Encode

/-!
# Bind parameters and cells

A parameter is laid out like the cell of a call: a size, a type, and a value. So the row
parser can be pointed at encoded parameters, and `CubridDriver.readCells_encodeBindParams`
says what it makes of them: it returns the list that was encoded and consumes the buffer.

It does so for all kinds of values but two. A time and a timestamp are sent in the layout of
a datetime, seven shorts, while a time in a row has three and a timestamp six
(`CubridDriver.readCell_time`, `CubridDriver.readCell_timestamp`). And the size is a 32-bit
integer: the size of a longer value is negative, which is read as `NULL`
(`CubridDriver.readCell_oversize`).
-/

namespace CubridDriver

open Checked Format PacketReader PacketWriter

/-- The values that are read back from a parameter: a string does not end in a null
character, and a byte string is not empty. -/
def Value.ReadBack : Value → Prop
  | .string s => NoTrailingNul s
  | .bytes v => v ≠ []
  | .time .. | .timestamp .. => False
  | _ => True

/-! ### One parameter -/

theorem Value.ReadBack.sent {v : Value} (h : v.ReadBack) (hnull : v ≠ .null) : v.onWire.Sent := by
  cases v with
  | null => exact absurd rfl hnull
  | string s => exact h
  | bytes v => exact h
  | time hour minute second => exact h.elim
  | timestamp year month day hour minute second => exact h.elim
  | _ => exact trivial

/-- **A parameter is laid out like a tagged value.** -/
theorem encodeOneParam_eq_typedParam {v : Value} (h : v.ReadBack) (hnull : v ≠ .null) :
    encodeOneParam v =
      typedParam (encodeValue v.onWire).length v.onWire.tag (encodeValue v.onWire) := by
  have hdatetime (year month day hour minute second ms : Int16) :
      writeDatetime year month day hour minute second ms =
        encodeValue (.datetime year month day hour minute second ms) := by
    simp only [writeDatetime, encodeValue, List.append_assoc]
  cases v with
  | null => exact absurd rfl hnull
  | bool v => rfl
  | short v => rfl
  | int v => rfl
  | long v => rfl
  | float bits => rfl
  | double bits => rfl
  | string s =>
    have hlen : (Utf8.encode s).length + 1 = (encodeValue (.string s)).length := by
      rw [encodeValue, List.length_append]
      rfl
    exact congrArg (fun size => typedParam size .string (encodeValue (.string s))) hlen
  | bytes v => rfl
  | date year month day =>
    rw [encodeOneParam, hdatetime, Value.onWire]
    rfl
  | time hour minute second => exact h.elim
  | timestamp year month day hour minute second => exact h.elim
  | datetime year month day hour minute second ms =>
    rw [encodeOneParam, hdatetime]
    rfl

/-- The record of a value that is read back is its type and the value. -/
theorem paramBytes_eq {v : Value} (h : v.ReadBack) (hnull : v ≠ .null) :
    paramBytes v = v.onWire.tag.toU8 :: encodeValue v.onWire := by
  rw [paramBytes, encodeOneParam_eq_typedParam h hnull, drop_typedParam]

section Cell

variable (col : ColumnMetaData)

/-- A value in the format of its type is read from a cell. -/
theorem decodes_typedParam {t : DataType} {payload : List UInt8} {v : Value}
    (hpayload : payload ∈ valueFormat t v) (hne : payload ≠ [])
    (hlen : payload.length + 1 < 2 ^ 31) :
    Decodes (readCell true col) (typedParam payload.length t payload) v := by
  have hcell : typedParam payload.length t payload ∈ cellFormat true col v := by
    refine Or.inr ?_
    rw [if_pos (Or.inl rfl)]
    refine ⟨t, payload, hpayload, hne, hlen, ?_⟩
    rw [typedParam, Nat.add_comm, List.append_assoc]
    rfl
  exact readsAs_cell true col v _ hcell

/-- **A parameter is read back** as the value that is sent. -/
theorem decodes_encodeOneParam {v : Value} (h : v.ReadBack) (hfits : FitsRecord (paramBytes v)) :
    Decodes (readCell true col) (encodeOneParam v) v.onWire := by
  by_cases hnull : v = .null
  · rw [hnull]
    exact readsAs_cell true col .null _ (Or.inl ⟨0, by decide, rfl⟩)
  · have hsent := h.sent hnull
    rw [paramBytes_eq h hnull, FitsRecord, List.length_cons] at hfits
    rw [encodeOneParam_eq_typedParam h hnull]
    exact decodes_typedParam col (encodeValue_mem hsent (tag_holds hsent))
      (encodeValue_ne_nil hsent) hfits

/-- **All parameters are read back**, in order, and nothing else is read. -/
theorem decodes_encodeBindParams {params : List Value}
    (h : ∀ v ∈ params, v.ReadBack ∧ FitsRecord (paramBytes v)) :
    Decodes (repeatM (readCell true col) params.length) (encodeBindParams params)
      (params.map Value.onWire) := by
  rw [encodeBindParams]
  exact reads_repeatM fun v hv => decodes_encodeOneParam col (h v hv).1 (h v hv).2

/-- **The decoder reads back the encoded parameters** of every list without a time or a
timestamp, where the sizes fit, and consumes the buffer. -/
theorem readCells_encodeBindParams {params : List Value}
    (h : ∀ v ∈ params, v.ReadBack ∧ FitsRecord (paramBytes v)) {data : Bytes}
    (hdata : data.1 = encodeBindParams params) :
    ∃ r, repeatM (readCell true col) params.length (.new data) =
      .ok (params.map Value.onWire, r) ∧ r.remaining = 0 := by
  exact (decodes_encodeBindParams col h).packet (hdata.trans (List.append_nil _).symm)

/-! ### Times and timestamps -/

/-- The size of a tagged value goes to `readValue` and no further: how much is read is up to
the type. -/
theorem decodes_tagged {t : DataType} {payload : List UInt8} {v : Value}
    (h : Decodes (readValue t SIZE_DATETIME) payload v) :
    Decodes (readCell true col) (writeInt 15 ++ ([t.toU8] ++ payload)) v := by
  have hsub : (Outcome.checkedSub (asUsize 15) 1 : Outcome ProtocolError ℕ) =
      .ok SIZE_DATETIME := Outcome.checkedSub_eq_ok.mpr rfl
  refine reads_bind (decodes_parseInt 15) ?_
  rw [if_neg (by decide), if_pos (Or.inl rfl)]
  refine reads_bind (decodes_parseByte t.toU8) ?_
  rw [hsub, lift_ok, pure_bind, if_neg (by decide), DataType.fromU8_toU8]
  exact h

/-- What a sized record leaves behind what is read of it. -/
theorem readCell_left {t : DataType} {payload : List UInt8} {v w : Value} (left : List UInt8)
    (h : Decodes (readValue t SIZE_DATETIME) payload v)
    (hw : encodeOneParam w = typedParam SIZE_DATETIME t (payload ++ left)) {data : Bytes}
    (hdata : data.1 = encodeOneParam w) :
    ∃ r, readCell true col (.new data) = .ok (v, r) ∧ r.remaining = left.length := by
  refine (decodes_tagged col h).packet ?_
  rw [hdata, hw, typedParam]
  simp only [List.append_assoc]
  rfl

/-- **Of a time, the date is read**, which is zero, and the time itself is left. -/
theorem readCell_time (hour minute second : Int16) {data : Bytes}
    (hdata : data.1 = encodeOneParam (.time hour minute second)) :
    ∃ r, readCell true col (.new data) = .ok (.time 0 0 0, r) ∧ r.remaining = 8 := by
  have hread : Decodes (readValue .time SIZE_DATETIME) (encodeValue (.time 0 0 0))
      (.time 0 0 0) :=
    reads_map _ (readsAs_time 0 0 0 _ (encodeValue_mem (v := .time 0 0 0) trivial rfl))
  refine readCell_left col (writeShort hour ++ (writeShort minute ++ (writeShort second ++
    writeShort 0))) hread ?_ hdata
  simp only [encodeOneParam, writeDatetime, encodeValue, List.append_assoc]

/-- **A timestamp is read**, and its milliseconds are left. -/
theorem readCell_timestamp (year month day hour minute second : Int16) {data : Bytes}
    (hdata : data.1 = encodeOneParam (.timestamp year month day hour minute second)) :
    ∃ r, readCell true col (.new data) = .ok (.timestamp year month day hour minute second, r) ∧
      r.remaining = 2 := by
  have hread : Decodes (readValue .timestamp SIZE_DATETIME)
      (encodeValue (.timestamp year month day hour minute second))
      (.timestamp year month day hour minute second) :=
    reads_map _ (readsAs_timestamp year month day hour minute second _
      (encodeValue_mem (v := .timestamp year month day hour minute second) trivial rfl))
  refine readCell_left col (writeShort 0) hread ?_ hdata
  simp only [encodeOneParam, writeDatetime, encodeValue, List.append_assoc]

/-! ### Sizes that overflow -/

/-- **A value that is too long is read as `NULL`**, and all of it is left. -/
theorem readCell_oversize {bytes : List UInt8} (h : 2 ^ 31 ≤ 1 + bytes.length)
    (h' : 1 + bytes.length < 2 ^ 32) {data : Bytes}
    (hdata : data.1 = encodeOneParam (.bytes bytes)) :
    ∃ r, readCell true col (.new data) = .ok (.null, r) ∧ r.remaining = 1 + bytes.length := by
  have hnull : Int32.ofNat (1 + bytes.length) ≤ 0 :=
    Int32.le_iff_toInt_le.mpr (toInt_ofNat_neg h h').le
  have hread : Decodes (readCell true col) (writeInt (Int32.ofNat (1 + bytes.length))) .null :=
    readsAs_cell true col .null _ (Or.inl ⟨_, hnull, rfl⟩)
  have hsplit : data.1 =
      writeInt (Int32.ofNat (1 + bytes.length)) ++ ([DataType.varBit.toU8] ++ bytes) := by
    rw [hdata, encodeOneParam, typedParam, List.append_assoc]
    rfl
  obtain ⟨r, hr, hleft⟩ := hread.packet hsplit
  exact ⟨r, hr, by rw [hleft, List.length_append, List.length_singleton]⟩

end Cell

/-- A Boolean, `NULL`, a date, and a string, as parameters. -/
def fourParams : List Value := [.bool true, .null, .date 2024 1 2, .string "a"]

theorem readCells_encodeBindParams_four : ∃ r, repeatM (readCell true TwoRows.column) 4
    (.new ⟨encodeBindParams fourParams, by decide⟩) =
      .ok ([.short 1, .null, .datetime 2024 1 2 0 0 0 0, .string "a"], r) ∧ r.remaining = 0 := by
  have hback : ∀ v ∈ fourParams, v.ReadBack ∧ FitsRecord (paramBytes v) := by
    intro v hv
    simp only [fourParams, List.mem_cons, List.not_mem_nil, or_false] at hv
    rcases hv with rfl | rfl | rfl | rfl
    · exact ⟨trivial, Value.FitsParam.fitsRecord trivial⟩
    · exact ⟨trivial, Value.FitsParam.fitsRecord trivial⟩
    · exact ⟨trivial, Value.FitsParam.fitsRecord trivial⟩
    · constructor
      · show (Utf8.encode "a").getLast? ≠ some 0
        decide
      · show (paramBytes (.string "a")).length < 2 ^ 31
        decide
  exact readCells_encodeBindParams TwoRows.column hback rfl

/-- Half past twelve, as a parameter, is read as midnight, and eight bytes are left. Of
`2 ^ 31` bytes none is read. -/
theorem readCells_time_oversize :
    (∃ r, repeatM (readCell true TwoRows.column) 1
      (.new ⟨encodeBindParams [.time 12 30 0], by decide⟩) = .ok ([.time 0 0 0], r) ∧
        r.remaining = 8) ∧
    ∃ (data : Bytes) (r : PacketReader),
      data.1 = encodeBindParams [.bytes (List.replicate (2 ^ 31) 0)] ∧
      repeatM (readCell true TwoRows.column) 1 (.new data) = .ok ([.null], r) ∧
        r.remaining = 1 + 2 ^ 31 := by
  refine ⟨⟨_, rfl, rfl⟩, ?_⟩
  have hbytes : (List.replicate (2 ^ 31) (0 : UInt8)).length = 2 ^ 31 := List.length_replicate
  -- only the length matters
  generalize List.replicate (2 ^ 31) (0 : UInt8) = bytes at hbytes ⊢
  have hparams : encodeBindParams [.bytes bytes] = encodeOneParam (.bytes bytes) :=
    List.append_nil _
  have hlen : (encodeBindParams [.bytes bytes]).length ≤ isizeMax := by
    rw [hparams, encodeOneParam, typedParam, List.length_append, List.length_append,
      length_writeInt, hbytes]
    decide
  have hdata : (⟨_, hlen⟩ : Bytes).1 = encodeOneParam (.bytes bytes) := hparams
  obtain ⟨r, hr, hleft⟩ := readCell_oversize TwoRows.column (by omega) (by omega) hdata
  refine ⟨⟨_, hlen⟩, r, rfl, ?_, by rw [hleft, hbytes]⟩
  change (readCell true TwoRows.column >>= fun v => repeatM _ 0 >>= fun vs => pure (v :: vs)) _ = _
  rw [bind_apply, hr]
  rfl

end CubridDriver
