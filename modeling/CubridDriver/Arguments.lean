import CubridDriver.Head
import CubridDriver.Lib.SelfDelimiting

/-!
# The arguments of a request

The payload of a request is a function code and arguments, each behind its length. The
builders do not write it like that: some arguments are put together from a raw number and
a raw byte, and the number happens to be the length of what follows.

`CubridDriver.RequestInput.payload_spec` says that it comes out right, for every builder:
the arguments tile the payload, the parameters of an `Execute` request tile its fifth
argument, and since lengths delimit what they stand in front of, a payload determines what
was written to it.
-/

namespace CubridDriver

open PacketReader PacketWriter

/-! ### Records -/

theorem writeInt_inj {v w : Int32} (h : writeInt v = writeInt w) : v = w := by
  rw [← intOfBytes_writeInt v, h, intOfBytes_writeInt]

theorem writeInt_ofNat_inj {m n : ℕ} (hm : m < 2 ^ 31) (hn : n < 2 ^ 31)
    (h : writeInt (Int32.ofNat m) = writeInt (Int32.ofNat n)) : m = n := by
  have heq := congrArg Int32.toInt (writeInt_inj h)
  rw [Int32.toInt_ofNat_of_lt hm, Int32.toInt_ofNat_of_lt hn] at heq
  exact Int.ofNat.inj heq

/-- A record that fits its length field. -/
def FitsRecord (bytes : List UInt8) : Prop := bytes.length < 2 ^ 31

/-- **A record says where it ends.** -/
theorem selfDelimiting_addBytes : SelfDelimiting FitsRecord addBytes :=
  selfDelimiting_lengthPrefixed (fun n => writeInt (Int32.ofNat n)) (fun _ => length_writeInt _)
    fun _ _ => writeInt_ofNat_inj

theorem addBytes_ne_nil (bytes : List UInt8) : addBytes bytes ≠ [] := by
  intro h
  have hlen := congrArg List.length h
  rw [addBytes, List.length_append, length_writeInt] at hlen
  exact absurd hlen (by simp)

theorem addInt_eq (v : Int32) : addInt v = addBytes (writeInt v) := by
  rw [addInt, addBytes, length_writeInt]
  rfl

theorem addByte_eq (v : UInt8) : addByte v = addBytes [v] := rfl

theorem writeNullTermString_eq (s : String) :
    writeNullTermString s = addBytes (Utf8.encode s ++ [0]) := by
  rw [writeNullTermString, addBytes, List.length_append, List.append_assoc]
  rfl

theorem addCacheTime_eq : addCacheTime = addBytes (writeInt 0 ++ writeInt 0) := rfl

/-! ### Bind parameters -/

/-- The record of a parameter: nothing for `NULL`, else the type and the value. -/
def paramBytes (v : Value) : List UInt8 := (encodeOneParam v).drop 4

/-- The sizes of a parameter fit their fields. -/
def Value.FitsParam : Value → Prop
  | .string s => (Utf8.encode s).length < 2 ^ 31 - 2
  | .bytes v => v.length < 2 ^ 31 - 2
  | _ => True

theorem typedParam_eq (dataType : DataType) (bytes : List UInt8) :
    typedParam bytes.length dataType bytes = addBytes (dataType.toU8 :: bytes) := by
  rw [typedParam, addBytes, List.length_cons, Nat.add_comm, List.append_assoc]
  rfl

theorem drop_typedParam (size : ℕ) (dataType : DataType) (bytes : List UInt8) :
    (typedParam size dataType bytes).drop 4 = dataType.toU8 :: bytes := by
  rw [typedParam, List.append_assoc, List.drop_left' (length_writeInt _)]
  rfl

/-- A parameter that is not `NULL` has a type and a value, and the size is the one of its
value. -/
theorem exists_typedParam {v : Value} (h : v ≠ .null) : ∃ dataType bytes,
    encodeOneParam v = typedParam bytes.length dataType bytes := by
  cases v with
  | null => exact absurd rfl h
  | bool v => exact ⟨.short, writeShort _, rfl⟩
  | short v => exact ⟨.short, writeShort v, rfl⟩
  | int v => exact ⟨.int, writeInt v, rfl⟩
  | long v => exact ⟨.bigint, writeLong v, rfl⟩
  | float bits => exact ⟨.float, writeFloat bits, rfl⟩
  | double bits => exact ⟨.double, writeDouble bits, rfl⟩
  | string s =>
    refine ⟨.string, Utf8.encode s ++ [0], ?_⟩
    rw [List.length_append]
    rfl
  | bytes v => exact ⟨.varBit, v, rfl⟩
  | date year month day => exact ⟨.datetime, writeDatetime year month day 0 0 0 0, rfl⟩
  | time hour minute second => exact ⟨.time, writeDatetime 0 0 0 hour minute second 0, rfl⟩
  | timestamp year month day hour minute second =>
    exact ⟨.timestamp, writeDatetime year month day hour minute second 0, rfl⟩
  | datetime year month day hour minute second ms =>
    exact ⟨.datetime, writeDatetime year month day hour minute second ms, rfl⟩

/-- **A parameter is one record.** -/
theorem encodeOneParam_eq (v : Value) : encodeOneParam v = addBytes (paramBytes v) := by
  by_cases hv : v = .null
  · rw [hv]
    rfl
  · obtain ⟨dataType, bytes, h⟩ := exists_typedParam hv
    rw [paramBytes, h, drop_typedParam, typedParam_eq]

/-- A parameter that fits is a record that fits. -/
theorem Value.FitsParam.fitsRecord {v : Value} (h : v.FitsParam) : FitsRecord (paramBytes v) := by
  rw [FitsRecord]
  cases v with
  | string s =>
    have hlen : (Utf8.encode s).length < 2 ^ 31 - 2 := h
    rw [paramBytes, encodeOneParam, drop_typedParam, List.length_cons, List.length_append,
      List.length_singleton]
    omega
  | bytes v =>
    have hlen : v.length < 2 ^ 31 - 2 := h
    rw [paramBytes, encodeOneParam, drop_typedParam, List.length_cons]
    omega
  | _ =>
    simp [paramBytes, encodeOneParam, drop_typedParam, writeShort, writeInt, writeLong, writeFloat,
      writeDouble, writeDatetime]

/-! What a parameter stands for can be read off its record. -/

/-- One of several shorts. -/
def shortAt (i : ℕ) (bytes : List UInt8) : Int16 :=
  (UInt16.ofNat (BigEndian.decode ((bytes.drop (2 * i)).take 2))).toInt16

/-- What a record of a type stands for. -/
def valueOf (bytes : List UInt8) : DataType → Option Value
  | .short => some (.short (shortAt 0 bytes))
  | .int => some (.int (intOfBytes bytes))
  | .bigint => some (.long (UInt64.ofNat (BigEndian.decode bytes)).toInt64)
  | .float => some (.float (UInt32.ofNat (BigEndian.decode bytes)))
  | .double => some (.double (UInt64.ofNat (BigEndian.decode bytes)))
  | .string => (Utf8.decode bytes.dropLast).toOption.map .string
  | .varBit => some (.bytes bytes)
  | .datetime => some (.datetime (shortAt 0 bytes) (shortAt 1 bytes) (shortAt 2 bytes)
      (shortAt 3 bytes) (shortAt 4 bytes) (shortAt 5 bytes) (shortAt 6 bytes))
  | .time => some (.time (shortAt 3 bytes) (shortAt 4 bytes) (shortAt 5 bytes))
  | .timestamp => some (.timestamp (shortAt 0 bytes) (shortAt 1 bytes) (shortAt 2 bytes)
      (shortAt 3 bytes) (shortAt 4 bytes) (shortAt 5 bytes))
  | _ => none

/-- What the record of a parameter stands for. -/
def paramOf : List UInt8 → Option Value
  | [] => some .null
  | typeByte :: bytes => (DataType.fromU8 typeByte).bind (valueOf bytes)

theorem shortAt_zero (v : Int16) (tail : List UInt8) : shortAt 0 (writeShort v ++ tail) = v := by
  have hfit : v.toUInt16.toNat < 256 ^ 2 := v.toUInt16.toNat_lt
  rw [shortAt, List.drop_zero, List.take_left' (length_writeShort v), writeShort,
    BigEndian.decode_encode hfit, UInt16.ofNat_toNat, Int16.toInt16_toUInt16]

theorem shortAt_succ (i : ℕ) (v : Int16) (tail : List UInt8) :
    shortAt (i + 1) (writeShort v ++ tail) = shortAt i tail := by
  rw [shortAt, shortAt, Nat.mul_add, Nat.add_comm, ← List.drop_drop,
    List.drop_left' (length_writeShort v)]

theorem shortAt_last (v : Int16) : shortAt 0 (writeShort v) = v := by
  have h := shortAt_zero v []
  rwa [List.append_nil] at h

/-- Each short of a datetime stands at its place. -/
theorem shortAt_writeDatetime (year month day hour minute second ms : Int16) :
    shortAt 0 (writeDatetime year month day hour minute second ms) = year ∧
      shortAt 1 (writeDatetime year month day hour minute second ms) = month ∧
      shortAt 2 (writeDatetime year month day hour minute second ms) = day ∧
      shortAt 3 (writeDatetime year month day hour minute second ms) = hour ∧
      shortAt 4 (writeDatetime year month day hour minute second ms) = minute ∧
      shortAt 5 (writeDatetime year month day hour minute second ms) = second ∧
      shortAt 6 (writeDatetime year month day hour minute second ms) = ms := by
  simp only [writeDatetime, List.append_assoc, shortAt_succ, shortAt_zero, shortAt_last, and_self]

theorem paramOf_cons (dataType : DataType) (bytes : List UInt8) :
    paramOf (dataType.toU8 :: bytes) = valueOf bytes dataType := by
  rw [paramOf, DataType.fromU8_toU8, Option.bind_some]

/-- **A record is read back** as the value that is sent. -/
theorem paramOf_paramBytes (v : Value) : paramOf (paramBytes v) = some v.onWire := by
  rw [paramBytes]
  cases v with
  | null => rfl
  | bool v =>
    rw [encodeOneParam, drop_typedParam, paramOf_cons, valueOf, shortAt_last, Value.onWire]
  | short v =>
    rw [encodeOneParam, drop_typedParam, paramOf_cons, valueOf, shortAt_last]
    rfl
  | int v =>
    rw [encodeOneParam, drop_typedParam, paramOf_cons, valueOf, intOfBytes_writeInt]
    rfl
  | long v =>
    have hfit : v.toUInt64.toNat < 256 ^ 8 := v.toUInt64.toNat_lt
    rw [encodeOneParam, drop_typedParam, paramOf_cons, valueOf, writeLong,
      BigEndian.decode_encode hfit, UInt64.ofNat_toNat, Int64.toInt64_toUInt64]
    rfl
  | float bits =>
    have hfit : bits.toNat < 256 ^ 4 := bits.toNat_lt
    rw [encodeOneParam, drop_typedParam, paramOf_cons, valueOf, writeFloat,
      BigEndian.decode_encode hfit, UInt32.ofNat_toNat]
    rfl
  | double bits =>
    have hfit : bits.toNat < 256 ^ 8 := bits.toNat_lt
    rw [encodeOneParam, drop_typedParam, paramOf_cons, valueOf, writeDouble,
      BigEndian.decode_encode hfit, UInt64.ofNat_toNat]
    rfl
  | string s =>
    rw [encodeOneParam, drop_typedParam, paramOf_cons, valueOf, List.dropLast_concat,
      Utf8.decode_encode]
    rfl
  | bytes v =>
    rw [encodeOneParam, drop_typedParam, paramOf_cons]
    rfl
  | date year month day =>
    obtain ⟨h₀, h₁, h₂, h₃, h₄, h₅, h₆⟩ := shortAt_writeDatetime year month day 0 0 0 0
    rw [encodeOneParam, drop_typedParam, paramOf_cons, valueOf, h₀, h₁, h₂, h₃, h₄, h₅, h₆]
    rfl
  | time hour minute second =>
    obtain ⟨-, -, -, h₃, h₄, h₅, -⟩ := shortAt_writeDatetime 0 0 0 hour minute second 0
    rw [encodeOneParam, drop_typedParam, paramOf_cons, valueOf, h₃, h₄, h₅]
    rfl
  | timestamp year month day hour minute second =>
    obtain ⟨h₀, h₁, h₂, h₃, h₄, h₅, -⟩ :=
      shortAt_writeDatetime year month day hour minute second 0
    rw [encodeOneParam, drop_typedParam, paramOf_cons, valueOf, h₀, h₁, h₂, h₃, h₄, h₅]
    rfl
  | datetime year month day hour minute second ms =>
    obtain ⟨h₀, h₁, h₂, h₃, h₄, h₅, h₆⟩ :=
      shortAt_writeDatetime year month day hour minute second ms
    rw [encodeOneParam, drop_typedParam, paramOf_cons, valueOf, h₀, h₁, h₂, h₃, h₄, h₅, h₆]
    rfl

/-- What is sent of a list of parameters is one record for each of them. -/
theorem encodeBindParams_eq (params : List Value) :
    encodeBindParams params = ((params.map paramBytes).map addBytes).flatten := by
  rw [encodeBindParams, List.map_map]
  exact congrArg _ (List.map_congr_left fun v _ => encodeOneParam_eq v)

/-- **The parameters are determined** by what is sent of them. -/
theorem encodeBindParams_inj {params params' : List Value} (h : ∀ v ∈ params, v.FitsParam)
    (h' : ∀ v ∈ params', v.FitsParam)
    (heq : encodeBindParams params = encodeBindParams params') :
    params.map Value.onWire = params'.map Value.onWire := by
  have hfits {params : List Value} (h : ∀ v ∈ params, v.FitsParam) :
      ∀ bytes ∈ params.map paramBytes, FitsRecord bytes := fun bytes hbytes => by
    obtain ⟨v, hv, rfl⟩ := List.mem_map.mp hbytes
    exact (h v hv).fitsRecord
  have hread (params : List Value) :
      (params.map paramBytes).map paramOf = (params.map Value.onWire).map some := by
    rw [List.map_map, List.map_map]
    exact List.map_congr_left fun v _ => paramOf_paramBytes v
  rw [encodeBindParams_eq, encodeBindParams_eq] at heq
  have hrecords := selfDelimiting_addBytes.eq_of_flatten addBytes_ne_nil (hfits h) (hfits h') heq
  have hvalues := congrArg (List.map paramOf) hrecords
  rw [hread, hread] at hvalues
  exact List.map_injective_iff.mpr (fun _ _ => Option.some.inj) hvalues

/-! ### The builders -/

/-- What is written to a builder of requests, apart from the token. -/
inductive RequestInput
  /-- `write_prepare_and_execute`. -/
  | prepareAndExecute (sql : String) (autoCommit : Bool)
  /-- `write_prepare`. -/
  | prepare (sql : String) (autoCommit : Bool)
  /-- `write_execute`. -/
  | execute (queryHandle : Int32) (stmtType : StatementType) (args : List Value)
      (autoCommit : Bool)
  /-- `write_fetch`. -/
  | fetch (queryHandle currentTupleCount fetchSize : Int32)
  /-- `write_close_req_handle`. -/
  | closeReqHandle (queryHandle : Int32)
  /-- `write_get_last_insert_id`. -/
  | getLastInsertId
  /-- `write_end_tran`. -/
  | endTran (tranType : TransactionType)
  /-- `write_get_db_version`. -/
  | getDbVersion (autoCommit : Bool)
  /-- `write_con_close`. -/
  | conClose
  deriving DecidableEq

namespace RequestInput

/-- Run the builder. -/
def build : RequestInput → CasInfo → Outcome Error (List UInt8)
  | prepareAndExecute sql autoCommit, casInfo =>
      .ok (writePrepareAndExecute sql autoCommit casInfo)
  | prepare sql autoCommit, casInfo => .ok (writePrepare sql autoCommit casInfo)
  | execute queryHandle stmtType args autoCommit, casInfo =>
      .ok (writeExecute queryHandle stmtType args autoCommit casInfo)
  | fetch queryHandle currentTupleCount fetchSize, casInfo =>
      writeFetch queryHandle currentTupleCount fetchSize casInfo
  | closeReqHandle queryHandle, casInfo => .ok (writeCloseReqHandle queryHandle casInfo)
  | getLastInsertId, casInfo => .ok (writeGetLastInsertId casInfo)
  | endTran tranType, casInfo => .ok (writeEndTran tranType casInfo)
  | getDbVersion autoCommit, casInfo => .ok (writeGetDbVersion autoCommit casInfo)
  | conClose, casInfo => .ok (writeConClose casInfo)

/-- The function code. -/
def code : RequestInput → FunctionCode
  | prepareAndExecute .. => .prepareAndExecute
  | prepare .. => .prepare
  | execute .. => .execute
  | fetch .. => .fetch
  | closeReqHandle _ => .closeReqHandle
  | getLastInsertId => .getLastInsertId
  | endTran _ => .endTran
  | getDbVersion _ => .getDbVersion
  | conClose => .conClose

/-- The arguments, without their lengths. -/
def arguments : RequestInput → List (List UInt8)
  | prepareAndExecute sql autoCommit =>
      [writeInt 3, Utf8.encode sql ++ [0], [PREPARE_NORMAL], [flagByte autoCommit],
        [EXECUTE_QUERY_ALL], writeInt 0, writeInt 0, [], writeInt 0 ++ writeInt 0, writeInt 0]
  | prepare sql autoCommit =>
      [Utf8.encode sql ++ [0], [PREPARE_NORMAL], [flagByte autoCommit]]
  | execute queryHandle stmtType args autoCommit =>
      [writeInt queryHandle, [EXECUTE_NORMAL], writeInt 0, writeInt 0, encodeBindParams args,
        [flagByte stmtType.isSelect], [flagByte autoCommit], [1], writeInt 0 ++ writeInt 0,
        writeInt 0]
  | fetch queryHandle currentTupleCount fetchSize =>
      [writeInt queryHandle, writeInt (currentTupleCount + 1), writeInt fetchSize, [0], writeInt 0]
  | closeReqHandle queryHandle => [writeInt queryHandle]
  | getLastInsertId => []
  | endTran tranType => [[tranType.toU8]]
  | getDbVersion autoCommit => [[flagByte autoCommit]]
  | conClose => []

/-- The inputs whose sizes fit their fields, and whose start position is a position. -/
def Fits : RequestInput → Prop
  | prepareAndExecute sql _ => (Utf8.encode sql).length < 2 ^ 31 - 2
  | prepare sql _ => (Utf8.encode sql).length < 2 ^ 31 - 2
  | execute _ _ args _ =>
      (∀ v ∈ args, v.FitsParam) ∧ (encodeBindParams args).length < 2 ^ 31 - 2
  | fetch _ currentTupleCount _ => currentTupleCount.toInt < 2 ^ 31 - 1
  | _ => True

/-- What of the input is written: the parameters as they are sent, and of the statement type
whether it is a query. -/
def Same : RequestInput → RequestInput → Prop
  | execute queryHandle stmtType args autoCommit,
      execute queryHandle' stmtType' args' autoCommit' =>
      queryHandle = queryHandle' ∧ stmtType.isSelect = stmtType'.isSelect ∧
        args.map Value.onWire = args'.map Value.onWire ∧ autoCommit = autoCommit'
  | input, input' => input = input'

/-- The payload of a request, behind the header. -/
def payload (request : List UInt8) : List UInt8 := request.drop 8

theorem payload_framed (code : FunctionCode) (args : List UInt8) (casInfo : CasInfo) :
    payload (framed code args casInfo) = code.toU8 :: args := by
  obtain ⟨header, hlen, hframed⟩ := framed_eq code args casInfo
  rw [payload, hframed, List.drop_left' hlen]

/-- A record of no bytes is the length alone. -/
theorem addBytes_bindData (args : List Value) :
    (if encodeBindParams args = [] then writeInt 0 else addBytes (encodeBindParams args)) =
      addBytes (encodeBindParams args) := by
  split
  · rw [‹encodeBindParams args = []›]
    rfl
  · rfl

/-- **The arguments tile the payload.** -/
theorem exists_build (input : RequestInput) (h : input.Fits) (casInfo : CasInfo) :
    ∃ request, input.build casInfo = .ok request ∧
      payload request = input.code.toU8 :: (input.arguments.map addBytes).flatten := by
  cases input with
  | prepareAndExecute sql autoCommit =>
    refine ⟨_, rfl, ?_⟩
    simp only [writePrepareAndExecute, payload_framed, arguments, List.map_cons, List.map_nil,
      List.flatten_cons, List.flatten_nil, addInt_eq, addByte_eq, writeNullTermString_eq,
      List.append_assoc]
    -- what is left are the raw numbers: two of them are lengths
    rfl
  | prepare sql autoCommit =>
    refine ⟨_, rfl, ?_⟩
    simp only [writePrepare, payload_framed, arguments, List.map_cons, List.map_nil,
      List.flatten_cons, List.flatten_nil, addByte_eq, writeNullTermString_eq, List.append_assoc,
      List.append_nil]
    rfl
  | execute queryHandle stmtType args autoCommit =>
    refine ⟨_, rfl, ?_⟩
    rw [writeExecute, payload_framed, addBytes_bindData]
    simp only [arguments, List.map_cons, List.map_nil, List.flatten_cons, List.flatten_nil,
      addInt_eq, addByte_eq, addCacheTime_eq, List.append_assoc, List.append_nil]
    -- the raw number `1` is the length of the fetch flag
    rfl
  | fetch queryHandle currentTupleCount fetchSize =>
    have hlo := currentTupleCount.le_toInt
    have hhi : currentTupleCount.toInt < 2 ^ 31 - 1 := h
    have hone : (1 : Int32).toInt = 1 := rfl
    have hstart : (checkedAdd currentTupleCount 1 : Outcome Error Int32) =
        .ok (currentTupleCount + 1) := (checkedAdd_eq_ok (by omega) (by omega)).1
    refine ⟨_, by rw [build, writeFetch, hstart, Outcome.ok_bind]; rfl, ?_⟩
    simp only [payload_framed, arguments, List.map_cons, List.map_nil, List.flatten_cons,
      List.flatten_nil, addInt_eq, addByte_eq, List.append_assoc, List.append_nil]
    rfl
  | closeReqHandle queryHandle =>
    refine ⟨_, rfl, ?_⟩
    rw [writeCloseReqHandle, payload_framed, addInt_eq]
    exact congrArg _ (List.append_nil _).symm
  | getLastInsertId => exact ⟨_, rfl, payload_framed _ _ _⟩
  | endTran tranType => exact ⟨_, rfl, payload_framed _ _ _⟩
  | getDbVersion autoCommit => exact ⟨_, rfl, payload_framed _ _ _⟩
  | conClose => exact ⟨_, rfl, payload_framed _ _ _⟩

/-- Every argument fits its length field. -/
theorem Fits.arguments {input : RequestInput} (h : input.Fits) :
    ∀ bytes ∈ input.arguments, FitsRecord bytes := by
  have hint (v : Int32) : FitsRecord (writeInt v) := by
    rw [FitsRecord, length_writeInt]
    decide
  have hbyte (b : UInt8) : FitsRecord [b] := by
    rw [FitsRecord]
    simp
  have htext {s : String} (hs : (Utf8.encode s).length < 2 ^ 31 - 2) :
      FitsRecord (Utf8.encode s ++ [0]) := by
    rw [FitsRecord, List.length_append, List.length_singleton]
    omega
  have hcache : FitsRecord (writeInt 0 ++ writeInt 0) := by
    rw [FitsRecord, List.length_append, length_writeInt]
    decide
  have hempty : FitsRecord [] := by
    rw [FitsRecord]
    decide
  cases input with
  | prepareAndExecute sql autoCommit =>
    simp only [RequestInput.arguments, List.forall_mem_cons]
    exact ⟨hint _, htext h, hbyte _, hbyte _, hbyte _, hint _, hint _, hempty, hcache, hint _,
      fun _ hmem => absurd hmem List.not_mem_nil⟩
  | prepare sql autoCommit =>
    simp only [RequestInput.arguments, List.forall_mem_cons]
    exact ⟨htext h, hbyte _, hbyte _, fun _ hmem => absurd hmem List.not_mem_nil⟩
  | execute queryHandle stmtType args autoCommit =>
    have hdata : FitsRecord (encodeBindParams args) := Nat.lt_of_lt_of_le h.2 (by decide)
    simp only [RequestInput.arguments, List.forall_mem_cons]
    exact ⟨hint _, hbyte _, hint _, hint _, hdata, hbyte _, hbyte _, hbyte _, hcache, hint _,
      fun _ hmem => absurd hmem List.not_mem_nil⟩
  | fetch queryHandle currentTupleCount fetchSize =>
    simp only [RequestInput.arguments, List.forall_mem_cons]
    exact ⟨hint _, hint _, hint _, hbyte _, hint _, fun _ hmem => absurd hmem List.not_mem_nil⟩
  | closeReqHandle queryHandle =>
    simp only [RequestInput.arguments, List.forall_mem_cons]
    exact ⟨hint _, fun _ hmem => absurd hmem List.not_mem_nil⟩
  | getLastInsertId => exact fun _ hmem => absurd hmem List.not_mem_nil
  | endTran tranType =>
    simp only [RequestInput.arguments, List.forall_mem_cons]
    exact ⟨hbyte _, fun _ hmem => absurd hmem List.not_mem_nil⟩
  | getDbVersion autoCommit =>
    simp only [RequestInput.arguments, List.forall_mem_cons]
    exact ⟨hbyte _, fun _ hmem => absurd hmem List.not_mem_nil⟩
  | conClose => exact fun _ hmem => absurd hmem List.not_mem_nil

theorem text_inj {s t : String} (h : Utf8.encode s ++ [0] = Utf8.encode t ++ [0]) : s = t :=
  Utf8.encode_inj (List.append_cancel_right h)

theorem encodeBindParams_onWire (params : List Value) :
    encodeBindParams (params.map Value.onWire) = encodeBindParams params := by
  rw [encodeBindParams, List.map_map]
  refine congrArg _ (List.map_congr_left fun v _ => ?_)
  cases v <;> rfl

/-- The same parameters are sent, and whether it is a query. -/
theorem same_execute {queryHandle queryHandle' : Int32} {stmtType stmtType' : StatementType}
    {args args' : List Value} {autoCommit autoCommit' : Bool} :
    Same (execute queryHandle stmtType args autoCommit)
        (execute queryHandle' stmtType' args' autoCommit') ↔
      queryHandle = queryHandle' ∧ stmtType.isSelect = stmtType'.isSelect ∧
        args.map Value.onWire = args'.map Value.onWire ∧ autoCommit = autoCommit' := Iff.rfl

/-- Inputs that are the same are written alike. -/
theorem Same.written {input input' : RequestInput} (h : input.Same input') :
    input.code = input'.code ∧ input.arguments = input'.arguments := by
  cases input with
  | execute queryHandle stmtType args autoCommit =>
    cases input' with
    | execute queryHandle' stmtType' args' autoCommit' =>
      obtain ⟨rfl, htype, hargs, rfl⟩ := same_execute.mp h
      refine ⟨rfl, ?_⟩
      rw [arguments, arguments, htype, ← encodeBindParams_onWire args, hargs,
        encodeBindParams_onWire]
    | _ => cases h
  | _ =>
    obtain rfl : _ = input' := h
    exact ⟨rfl, rfl⟩

/-- **What is written determines the input.** -/
theorem same_of_arguments {input input' : RequestInput} (h : input.Fits) (h' : input'.Fits)
    (hcode : input.code = input'.code) (heq : input.arguments = input'.arguments) :
    input.Same input' := by
  -- inputs of different builders have different codes
  cases input <;> cases input' <;> cases hcode
  all_goals simp only [arguments, List.cons.injEq] at heq
  case prepareAndExecute sql autoCommit sql' autoCommit' =>
    obtain ⟨-, hsql, -, ⟨hflag, -⟩, -⟩ := heq
    obtain rfl := text_inj hsql
    obtain rfl := flagByte_inj hflag
    rfl
  case prepare sql autoCommit sql' autoCommit' =>
    obtain ⟨hsql, -, ⟨hflag, -⟩, -⟩ := heq
    obtain rfl := text_inj hsql
    obtain rfl := flagByte_inj hflag
    rfl
  case execute queryHandle stmtType args autoCommit queryHandle' stmtType' args' autoCommit' =>
    obtain ⟨hhandle, -, -, -, hdata, ⟨htype, -⟩, ⟨hflag, -⟩, -⟩ := heq
    exact same_execute.mpr ⟨writeInt_inj hhandle, flagByte_inj htype,
      encodeBindParams_inj h.1 h'.1 hdata, flagByte_inj hflag⟩
  case fetch queryHandle count size queryHandle' count' size' =>
    obtain ⟨hhandle, hstart, hsize, -⟩ := heq
    obtain rfl := writeInt_inj hhandle
    obtain rfl : count = count' := by simpa using writeInt_inj hstart
    obtain rfl := writeInt_inj hsize
    rfl
  case closeReqHandle queryHandle queryHandle' =>
    obtain rfl := writeInt_inj heq.1
    rfl
  case getLastInsertId => rfl
  case endTran tranType tranType' =>
    obtain rfl : tranType = tranType' := by
      cases tranType <;> cases tranType' <;> first | rfl | exact absurd heq.1.1 (by decide)
    rfl
  case getDbVersion autoCommit autoCommit' =>
    obtain rfl := flagByte_inj heq.1.1
    rfl
  case conClose => rfl

/-- **The payload of a request.** It is a function code and arguments that tile it, each
behind its length; the parameters of an `Execute` request tile its fifth argument, with one
record each. Another request has the same payload exactly when what is written to it is the
same. -/
theorem payload_spec (input : RequestInput) (h : input.Fits) (casInfo : CasInfo) :
    ∃ request, input.build casInfo = .ok request ∧
      payload request = input.code.toU8 :: (input.arguments.map addBytes).flatten ∧
      (∀ bytes ∈ input.arguments, bytes.length < 2 ^ 31) ∧
      (∀ queryHandle stmtType args autoCommit,
        input = execute queryHandle stmtType args autoCommit →
        ∃ records : List (List UInt8), records.length = args.length ∧
          input.arguments[4]? = some (records.map addBytes).flatten ∧
          ∀ bytes ∈ records, bytes.length < 2 ^ 31) ∧
      ∀ input' casInfo' request', input'.Fits → input'.build casInfo' = .ok request' →
        (payload request = payload request' ↔ input.Same input') := by
  obtain ⟨request, hbuild, hpayload⟩ := input.exists_build h casInfo
  refine ⟨request, hbuild, hpayload, h.arguments, ?_, ?_⟩
  · rintro queryHandle stmtType args autoCommit rfl
    refine ⟨args.map paramBytes, List.length_map _, ?_, fun bytes hbytes => ?_⟩
    · rw [← encodeBindParams_eq]
      rfl
    · obtain ⟨v, hv, rfl⟩ := List.mem_map.mp hbytes
      exact (h.1 v hv).fitsRecord
  · intro input' casInfo' request' h' hbuild'
    obtain ⟨request₁, hbuild₁, hpayload₁⟩ := input'.exists_build h' casInfo'
    obtain rfl := Outcome.ok.inj (hbuild₁.symm.trans hbuild')
    rw [hpayload, hpayload₁]
    constructor
    · intro heq
      obtain ⟨hcode, hargs⟩ := List.cons.inj heq
      have hcode := FunctionCode.toU8_inj.mp hcode
      exact same_of_arguments h h' hcode (selfDelimiting_addBytes.eq_of_flatten addBytes_ne_nil
        h.arguments h'.arguments hargs)
    · intro hsame
      obtain ⟨hcode, hargs⟩ := hsame.written
      rw [hcode, hargs]

/-- An `Execute` request with three parameters. -/
def threeParams : RequestInput := execute 7 .insert [.bool true, .null, .string "a"] true

theorem threeParams_fits : threeParams.Fits := by
  refine ⟨fun v hv => ?_, by decide⟩
  simp only [List.mem_cons, List.not_mem_nil, or_false] at hv
  rcases hv with rfl | rfl | rfl
  · exact trivial
  · exact trivial
  · show (Utf8.encode "a").length < 2 ^ 31 - 2
    decide

theorem payload_spec_threeParams : ∃ request, threeParams.build (1, 2, 3, 4) = .ok request ∧
    payload request = threeParams.code.toU8 :: (threeParams.arguments.map addBytes).flatten := by
  obtain ⟨request, hbuild, hpayload, -⟩ := payload_spec threeParams threeParams_fits (1, 2, 3, 4)
  exact ⟨request, hbuild, hpayload⟩

end RequestInput

end CubridDriver
