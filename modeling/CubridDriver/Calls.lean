import CubridDriver.Arguments
import Mathlib.Data.List.Forall2

/-!
# Calls

What a server understands of a request: the call that is made, with the values that are
sent. A reader of requests is written down here, as a server would have it: it checks the
length in the header, looks at the function code, takes the arguments off one by one, and
reads those that matter.

`CubridDriver.readStream_build` says that it understands the requests as they were meant, one
after another, from the bytes of all of them alone.
-/

namespace CubridDriver

open PacketWriter

/-! ### Calls -/

/-- A request, as a server understands it. -/
inductive Call
  /-- Prepare and execute a text. -/
  | prepareAndExecute (sql : String) (autoCommit : Bool)
  /-- Prepare a text. -/
  | prepare (sql : String) (autoCommit : Bool)
  /-- Execute what has been prepared, and perhaps send the first rows. -/
  | execute (handle : Int32) (params : List Value) (fetch autoCommit : Bool)
  /-- Send rows, from the given one on; rows are counted from one. -/
  | fetch (handle start size : Int32)
  /-- Close a query handle. -/
  | closeReqHandle (handle : Int32)
  /-- Tell the last number that was given out. -/
  | getLastInsertId
  /-- End the transaction. -/
  | endTran (tranType : TransactionType)
  /-- Tell the version of the server. -/
  | getDbVersion (autoCommit : Bool)
  /-- Close the connection. -/
  | conClose
  deriving DecidableEq

/-- The call that is meant by what is written to a builder. -/
def RequestInput.call : RequestInput → Call
  | prepareAndExecute sql autoCommit => .prepareAndExecute sql autoCommit
  | prepare sql autoCommit => .prepare sql autoCommit
  | execute queryHandle stmtType args autoCommit =>
      .execute queryHandle (args.map Value.onWire) stmtType.isSelect autoCommit
  | fetch queryHandle currentTupleCount fetchSize =>
      .fetch queryHandle (currentTupleCount + 1) fetchSize
  | closeReqHandle queryHandle => .closeReqHandle queryHandle
  | getLastInsertId => .getLastInsertId
  | endTran tranType => .endTran tranType
  | getDbVersion autoCommit => .getDbVersion autoCommit
  | conClose => .conClose

/-! ### Reading arguments -/

/-- A number of four bytes. -/
def readInt (bytes : List UInt8) : Option Int32 :=
  if bytes.length = SIZE_INT then some (intOfBytes bytes) else none

/-- A flag. -/
def readFlag (bytes : List UInt8) : Option Bool :=
  if bytes = [0] then some false else if bytes = [1] then some true else none

/-- A text that ends in a null character. -/
def readText (bytes : List UInt8) : Option String :=
  if bytes.getLast? = some 0 then
    match Utf8.decode bytes.dropLast with
    | .ok s => some s
    | .error _ => none
  else none

/-- The way a transaction is to end. -/
def readTranType (bytes : List UInt8) : Option TransactionType :=
  if bytes = [1] then some .commit else if bytes = [2] then some .rollback else none

/-- Take the records off that have their lengths in front of them. -/
def readRecords (bytes : List UInt8) : Option (List (List UInt8)) :=
  takeWords (takeLengthPrefixed 4 BigEndian.decode) bytes.length bytes

/-- The parameters of a statement. -/
def readParams (bytes : List UInt8) : Option (List Value) :=
  (readRecords bytes).bind fun records => records.mapM paramOf

/-- The function code of a byte. -/
def FunctionCode.ofByte (b : UInt8) : Option FunctionCode :=
  [endTran, prepare, execute, closeReqHandle, fetch, getDbVersion, conClose, getLastInsertId,
    prepareAndExecute].find? fun code => code.toU8 = b

/-- The call of a function code and its arguments. What has no name here is not looked at. -/
def readCall : FunctionCode → List (List UInt8) → Option Call
  | .prepareAndExecute, [_, sql, _, autoCommit, _, _, _, _, _, _] => do
      return .prepareAndExecute (← readText sql) (← readFlag autoCommit)
  | .prepare, [sql, _, autoCommit] => do
      return .prepare (← readText sql) (← readFlag autoCommit)
  | .execute, [handle, _, _, _, params, fetch, autoCommit, _, _, _] => do
      return .execute (← readInt handle) (← readParams params) (← readFlag fetch)
        (← readFlag autoCommit)
  | .fetch, [handle, start, size, _, _] => do
      return .fetch (← readInt handle) (← readInt start) (← readInt size)
  | .closeReqHandle, [handle] => do return .closeReqHandle (← readInt handle)
  | .getLastInsertId, [] => some .getLastInsertId
  | .endTran, [tranType] => do return .endTran (← readTranType tranType)
  | .getDbVersion, [autoCommit] => do return .getDbVersion (← readFlag autoCommit)
  | .conClose, [] => some .conClose
  | _, _ => none

/-- **Read a request**: the length of its payload, the CAS info token, the function code, and
the arguments. -/
def readRequest (request : List UInt8) : Option (CasInfo × Call) :=
  match request.drop 8 with
  | [] => none
  | codeByte :: arguments =>
      if BigEndian.decode (request.take 4) = (request.drop 8).length then do
        let code ← FunctionCode.ofByte codeByte
        let args ← readRecords arguments
        let call ← readCall code args
        return (requestToken request, call)
      else none

/-- Take a request off a stream: the header says how long the payload is. -/
def takeRequest (stream : List UInt8) : Option (List UInt8 × List UInt8) :=
  let n := 8 + BigEndian.decode (stream.take 4)
  if n ≤ stream.length then some (stream.take n, stream.drop n) else none

/-- Read the requests of a stream, to its end. -/
def readStream (stream : List UInt8) : Option (List (CasInfo × Call)) :=
  (takeWords takeRequest stream.length stream).bind fun requests => requests.mapM readRequest

/-! ### Arguments are read back -/

@[simp] theorem readInt_writeInt (v : Int32) : readInt (writeInt v) = some v := by
  have hlen : (writeInt v).length = SIZE_INT := length_writeInt v
  rw [readInt, if_pos hlen, intOfBytes_writeInt]

@[simp] theorem readFlag_flagByte (flag : Bool) : readFlag [flagByte flag] = some flag := by
  cases flag <;> rfl

@[simp] theorem readText_encode (s : String) : readText (Utf8.encode s ++ [0]) = some s := by
  rw [readText, List.getLast?_concat, if_pos rfl, List.dropLast_concat, Utf8.decode_encode]

@[simp] theorem readTranType_toU8 (tranType : TransactionType) :
    readTranType [tranType.toU8] = some tranType := by
  cases tranType <;> rfl

@[simp] theorem FunctionCode.ofByte_toU8 (code : FunctionCode) :
    FunctionCode.ofByte code.toU8 = some code := by
  cases code <;> rfl

theorem decode_writeInt_ofNat {n : ℕ} (h : n < 2 ^ 31) :
    BigEndian.decode (writeInt (Int32.ofNat n)) = n := by
  have huint : (Int32.ofNat n).toUInt32.toNat = n := by
    change n % 2 ^ 32 = n
    exact Nat.mod_eq_of_lt (by omega)
  rw [writeInt, huint, BigEndian.decode_encode (by omega)]

/-- **Records are taken off** as they were written. -/
theorem readRecords_addBytes {records : List (List UInt8)}
    (h : ∀ bytes ∈ records, FitsRecord bytes) :
    readRecords (records.map addBytes).flatten = some records :=
  takeWords_lengthPrefixed (fun n => writeInt (Int32.ofNat n)) (by decide)
    (fun _ => length_writeInt _) (fun _ hn => decode_writeInt_ofNat hn) h

theorem mapM_paramOf (params : List Value) :
    (params.map paramBytes).mapM paramOf = some (params.map Value.onWire) := by
  induction params with
  | nil => rfl
  | cons v params ih =>
    rw [List.map_cons, List.mapM_cons, paramOf_paramBytes, ih]
    rfl

@[simp] theorem readParams_encodeBindParams {params : List Value}
    (h : ∀ v ∈ params, v.FitsParam) :
    readParams (encodeBindParams params) = some (params.map Value.onWire) := by
  have hrecords : ∀ bytes ∈ params.map paramBytes, FitsRecord bytes := fun bytes hbytes => by
    obtain ⟨v, hv, rfl⟩ := List.mem_map.mp hbytes
    exact (h v hv).fitsRecord
  rw [readParams, encodeBindParams_eq, readRecords_addBytes hrecords, Option.bind_some,
    mapM_paramOf]

/-! ### Requests are read back -/

namespace RequestInput

/-- The call is read off the arguments. -/
theorem readCall_arguments {input : RequestInput} (h : input.Fits) :
    readCall input.code input.arguments = some input.call := by
  cases input with
  | execute queryHandle stmtType args autoCommit =>
    simp [code, arguments, readCall, call, readParams_encodeBindParams h.1]
  | _ => simp [code, arguments, readCall, call]

/-- **What a builder makes** is framed, and its arguments tile it. -/
theorem build_eq_framed {input : RequestInput} (h : input.Fits) (casInfo : CasInfo) :
    input.build casInfo =
      .ok (framed input.code (input.arguments.map addBytes).flatten casInfo) := by
  obtain ⟨request, hbuild, hpayload⟩ := input.exists_build h casInfo
  obtain ⟨code, args, rfl⟩ : ∃ code args, request = framed code args casInfo := by
    cases input with
    | fetch queryHandle currentTupleCount fetchSize =>
      obtain ⟨start, -, hdata⟩ := Outcome.bind_eq_ok.mp hbuild
      exact ⟨_, _, (Outcome.ok.inj hdata).symm⟩
    | _ => exact ⟨_, _, (Outcome.ok.inj hbuild).symm⟩
  rw [payload_framed] at hpayload
  obtain ⟨hcode, rfl⟩ := List.cons.inj hpayload
  rw [hbuild, FunctionCode.toU8_inj.mp hcode]

@[simp] theorem length_addBytes (bytes : List UInt8) :
    (addBytes bytes).length = 4 + bytes.length := by
  rw [addBytes, List.length_append, length_writeInt]

/-- The length of a payload fits the field in the header. -/
theorem Fits.length_lt {input : RequestInput} (h : input.Fits) :
    (input.arguments.map addBytes).flatten.length + 1 < 2 ^ 32 := by
  cases input with
  | prepareAndExecute sql autoCommit =>
    have hlen : (Utf8.encode sql).length < 2 ^ 31 - 2 := h
    simp [RequestInput.arguments, length_writeInt]
    omega
  | prepare sql autoCommit =>
    have hlen : (Utf8.encode sql).length < 2 ^ 31 - 2 := h
    simp [RequestInput.arguments]
    omega
  | execute queryHandle stmtType args autoCommit =>
    have hlen := h.2
    simp [RequestInput.arguments, length_writeInt]
    omega
  | _ => simp [RequestInput.arguments, length_writeInt]

end RequestInput

/-- The header of a request announces its payload. -/
theorem decode_header {code : FunctionCode} {args : List UInt8} (h : args.length + 1 < 2 ^ 32)
    (casInfo : CasInfo) (tail : List UInt8) :
    BigEndian.decode ((framed code args casInfo ++ tail).take 4) = args.length + 1 := by
  have hlen : (writeByte code.toU8 ++ args).length = args.length + 1 := by
    rw [List.length_append, Nat.add_comm]
    rfl
  have hmod : (args.length + 1) % 2 ^ 32 = args.length + 1 := Nat.mod_eq_of_lt h
  rw [framed, buildRequest, buildHeader, hlen, hmod, List.append_assoc, List.append_assoc,
    List.append_assoc, List.take_left' (BigEndian.length_encode _ _),
    BigEndian.decode_encode (by omega)]

/-- **A request is read back** as the call that was meant. -/
theorem readRequest_framed {input : RequestInput} (h : input.Fits) (casInfo : CasInfo) :
    readRequest (framed input.code (input.arguments.map addBytes).flatten casInfo) =
      some (casInfo, input.call) := by
  have hdrop := RequestInput.payload_framed input.code (input.arguments.map addBytes).flatten
    casInfo
  have hheader := @decode_header input.code _ h.length_lt casInfo []
  rw [List.append_nil] at hheader
  rw [readRequest, show (framed _ _ _).drop 8 = _ from hdrop]
  simp only [hheader, List.length_cons, if_true, FunctionCode.ofByte_toU8,
    readRecords_addBytes h.arguments, RequestInput.readCall_arguments h, requestToken_framed,
    Option.bind_eq_bind, Option.bind_some, Option.pure_def]

/-- A request is taken off a stream. -/
theorem takeRequest_framed {input : RequestInput} (h : input.Fits) (casInfo : CasInfo)
    (tail : List UInt8) :
    takeRequest (framed input.code (input.arguments.map addBytes).flatten casInfo ++ tail) =
      some (framed input.code (input.arguments.map addBytes).flatten casInfo, tail) := by
  obtain ⟨header, hlen, hframed⟩ :=
    framed_eq input.code (input.arguments.map addBytes).flatten casInfo
  have hlength : (framed input.code (input.arguments.map addBytes).flatten casInfo).length =
      8 + ((input.arguments.map addBytes).flatten.length + 1) := by
    rw [hframed, List.length_append, hlen, List.length_cons]
  rw [takeRequest, decode_header h.length_lt casInfo tail, if_pos, List.take_left' hlength,
    List.drop_left' hlength]
  rw [List.length_append, hlength]
  omega

/-- What a builder makes of an input that fits. -/
def IsRequest (request : List UInt8) : Prop :=
  ∃ input : RequestInput, ∃ casInfo, input.Fits ∧
    request = framed input.code (input.arguments.map addBytes).flatten casInfo

theorem IsRequest.ne_nil {request : List UInt8} (h : IsRequest request) : request ≠ [] := by
  obtain ⟨input, casInfo, -, rfl⟩ := h
  obtain ⟨header, -, hframed⟩ :=
    framed_eq input.code (input.arguments.map addBytes).flatten casInfo
  rw [hframed]
  exact List.append_ne_nil_of_right_ne_nil _ (List.cons_ne_nil _ _)

theorem takeRequest_append {request : List UInt8} (h : IsRequest request) (tail : List UInt8) :
    takeRequest (request ++ tail) = some (request, tail) := by
  obtain ⟨input, casInfo, hfits, rfl⟩ := h
  exact takeRequest_framed hfits casInfo tail

/-- **Requests are told apart** in the bytes of all of them. -/
theorem readStream_flatten {requests : List (List UInt8)}
    (h : ∀ request ∈ requests, IsRequest request) :
    readStream requests.flatten = requests.mapM readRequest := by
  have htake := @takeWords_flatten _ _ IsRequest (fun request => request) takeRequest
    (fun _ => IsRequest.ne_nil) (fun _ tail hrequest => takeRequest_append hrequest tail) requests
    requests.flatten.length h ?_
  · rw [List.map_id'] at htake
    rw [readStream, htake, Option.bind_some]
  · have hlen := @length_le_length_flatten _ _ (fun request => request) requests
      fun request hmem => (h request hmem).ne_nil
    rwa [List.map_id'] at hlen

theorem mapM_readRequest : ∀ inputs : List (RequestInput × CasInfo),
    (∀ input ∈ inputs, input.1.Fits) →
    (inputs.map fun input => framed input.1.code (input.1.arguments.map addBytes).flatten
      input.2).mapM readRequest = some (inputs.map fun input => (input.2, input.1.call))
  | [], _ => rfl
  | input :: inputs, h => by
    have htail := mapM_readRequest inputs fun i hi => h i (List.mem_cons_of_mem _ hi)
    rw [List.map_cons, List.mapM_cons, readRequest_framed (h input List.mem_cons_self), htail]
    rfl

/-- **A stream of requests is read back**, whatever was written to the builders: the server
takes the requests apart where they were put together, and understands each of them as it
was meant, along with its CAS info token. -/
theorem readStream_build (inputs : List (RequestInput × CasInfo))
    (h : ∀ input ∈ inputs, input.1.Fits) :
    ∃ requests : List (List UInt8),
      List.Forall₂ (fun input request => input.1.build input.2 = .ok request) inputs requests ∧
        readStream requests.flatten =
          some (inputs.map fun input => (input.2, input.1.call)) := by
  refine ⟨inputs.map fun input => framed input.1.code
    (input.1.arguments.map addBytes).flatten input.2, ?_, ?_⟩
  · rw [List.forall₂_map_right_iff]
    exact List.forall₂_same.mpr fun input hinput =>
      RequestInput.build_eq_framed (h input hinput) input.2
  · rw [readStream_flatten fun request hmem => ?_, mapM_readRequest inputs h]
    obtain ⟨input, hinput, rfl⟩ := List.mem_map.mp hmem
    exact ⟨input.1, input.2, h input hinput, rfl⟩

/-- Two inputs: a statement with parameters, and the rows behind the first hundred. -/
def twoInputs : List (RequestInput × CasInfo) :=
  [(.execute 7 .insert [.bool true, .null] true, (1, 2, 3, 4)), (.fetch 7 100 100, (5, 6, 7, 8))]

theorem readStream_build_twoInputs : ∃ requests : List (List UInt8),
    readStream requests.flatten =
      some [((1, 2, 3, 4), .execute 7 [.short 1, .null] false true),
        ((5, 6, 7, 8), .fetch 7 101 100)] := by
  have hfits : ∀ input ∈ twoInputs, input.1.Fits := by
    rw [twoInputs, List.forall_mem_cons, List.forall_mem_singleton]
    exact ⟨⟨by simp [Value.FitsParam], by decide⟩, by simp [RequestInput.Fits]⟩
  obtain ⟨requests, -, hread⟩ := readStream_build twoInputs hfits
  exact ⟨requests, hread⟩

end CubridDriver
