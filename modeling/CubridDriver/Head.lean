import CubridDriver.Readers
import CubridDriver.Request
import CubridDriver.Response

/-!
# Heads

What stands at fixed places of the packets: the CAS info token of a request, the handle it
names, and the token and the code a response starts with. A response that is accepted has
both, and the parser returns the token that stands there.
-/

namespace CubridDriver

open Checked PacketReader PacketWriter

/-! ### Requests -/

/-- The token in four bytes. -/
def tokenOfBytes (bs : List UInt8) : CasInfo :=
  (bs.getD 0 0, bs.getD 1 0, bs.getD 2 0, bs.getD 3 0)

/-- The token a request carries, behind the length field. -/
def requestToken (request : List UInt8) : CasInfo := tokenOfBytes ((request.drop 4).take 4)

/-- The first argument of a request, if that is an integer: it stands behind the header, the
function code, and its length. -/
def firstArgument (request : List UInt8) : Int32 := intOfBytes ((request.drop 13).take 4)

theorem tokenOfBytes_toList (casInfo : CasInfo) : tokenOfBytes casInfo.toList = casInfo := rfl

@[simp] theorem requestToken_framed (code : FunctionCode) (arguments : List UInt8)
    (casInfo : CasInfo) : requestToken (framed code arguments casInfo) = casInfo := by
  have hlen : (BigEndian.encode 4
      ((writeByte code.toU8 ++ arguments).length % 2 ^ 32)).length = 4 :=
    BigEndian.length_encode _ _
  have htoken : casInfo.toList.length = 4 := rfl
  rw [requestToken, framed, buildRequest, buildHeader, List.append_assoc, List.drop_left' hlen,
    List.take_left' htoken, tokenOfBytes_toList]

@[simp] theorem firstArgument_framed (code : FunctionCode) (v : Int32) (arguments : List UInt8)
    (casInfo : CasInfo) : firstArgument (framed code (addInt v ++ arguments) casInfo) = v := by
  obtain ⟨header, hlen, hframed⟩ := framed_eq code (addInt v ++ arguments) casInfo
  have hdrop : (framed code (addInt v ++ arguments) casInfo).drop 13 = writeInt v ++ arguments := by
    rw [hframed, List.drop_append, hlen, List.drop_eq_nil_of_le (by omega), List.nil_append]
    change (addInt v ++ arguments).drop 4 = _
    rw [addInt, List.append_assoc, List.drop_left' (length_writeInt _)]
  rw [firstArgument, hdrop, List.take_left' (length_writeInt v), intOfBytes_writeInt]

/-! ### The auto-commit mode of a request

It stands at a fixed place from the end. -/

theorem flagByte_inj {a b : Bool} (h : flagByte a = flagByte b) : a = b := by
  cases a <;> cases b <;> first | rfl | exact absurd h (by decide)

/-- The flag in front of the same last bytes. -/
theorem flag_eq_of_append {l l' tail : List UInt8} {a b : Bool}
    (h : l ++ flagByte a :: tail = l' ++ flagByte b :: tail) : a = b :=
  flagByte_inj (List.cons.inj (List.append_inj' h rfl).2).1

theorem writePrepareAndExecute_flag {sql sql' : String} {a b : Bool} {casInfo casInfo' : CasInfo}
    (h : writePrepareAndExecute sql a casInfo = writePrepareAndExecute sql' b casInfo') :
    a = b := by
  have hsplit (sql : String) (a : Bool) (casInfo : CasInfo) : ∃ l,
      writePrepareAndExecute sql a casInfo = l ++ flagByte a :: (addByte EXECUTE_QUERY_ALL ++
        addInt 0 ++ addInt 0 ++ writeInt 0 ++ writeInt (Int32.ofNat SIZE_LONG) ++ writeInt 0 ++
        writeInt 0 ++ addInt 0) := by
    obtain ⟨header, -, hframed⟩ := framed_eq .prepareAndExecute _ casInfo
    refine ⟨header ++ FunctionCode.prepareAndExecute.toU8 :: (addInt 3 ++ writeNullTermString sql ++
      addByte PREPARE_NORMAL ++ writeInt (Int32.ofNat SIZE_BYTE)), ?_⟩
    rw [writePrepareAndExecute, hframed]
    simp only [addByte, writeByte, List.append_assoc, List.cons_append, List.nil_append]
  obtain ⟨l, hl⟩ := hsplit sql a casInfo
  obtain ⟨l', hl'⟩ := hsplit sql' b casInfo'
  rw [hl, hl'] at h
  exact flag_eq_of_append h

theorem writeExecute_flag {handle handle' : Int32} {stmtType stmtType' : StatementType}
    {args args' : List Value} {a b : Bool} {casInfo casInfo' : CasInfo}
    (h : writeExecute handle stmtType args a casInfo =
      writeExecute handle' stmtType' args' b casInfo') : a = b := by
  have hsplit (handle : Int32) (stmtType : StatementType) (args : List Value) (a : Bool)
      (casInfo : CasInfo) : ∃ l, writeExecute handle stmtType args a casInfo =
        l ++ flagByte a :: (addByte 1 ++ addCacheTime ++ addInt 0) := by
    obtain ⟨header, -, hframed⟩ := framed_eq .execute _ casInfo
    refine ⟨header ++ FunctionCode.execute.toU8 :: (addInt handle ++ addByte EXECUTE_NORMAL ++
      addInt 0 ++ addInt 0 ++
      (if encodeBindParams args = [] then writeInt 0 else addBytes (encodeBindParams args)) ++
      writeInt 1 ++ writeByte (flagByte stmtType.isSelect) ++
      writeInt (Int32.ofNat SIZE_BYTE)), ?_⟩
    rw [writeExecute, hframed]
    simp only [addByte, writeByte, List.append_assoc, List.cons_append, List.nil_append]
  obtain ⟨l, hl⟩ := hsplit handle stmtType args a casInfo
  obtain ⟨l', hl'⟩ := hsplit handle' stmtType' args' b casInfo'
  rw [hl, hl'] at h
  exact flag_eq_of_append h

/-! ### Responses -/

/-- The token a response starts with. -/
def responseToken (data : List UInt8) : CasInfo := tokenOfBytes (data.take SIZE_CAS_INFO)

/-- The response code, behind the token. -/
def responseCode (data : List UInt8) : Option Int32 :=
  if 8 ≤ data.length then some (intOfBytes ((data.drop 4).take 4)) else none

/-- What a response that is accepted starts with. -/
structure Heads (data : List UInt8) (casInfo : CasInfo) (code : Int32) : Prop where
  token_eq : casInfo = responseToken data
  code_eq : responseCode data = some code
  code_nonneg : ¬code < 0

/-- An announced error is returned as one. -/
theorem returns_failWithServerError {α : Type} :
    Returns (failWithServerError : Parser α) fun _ => False :=
  returns_then fun _ => returns_then fun _ => returns_throw _

/-- **The head of a response** is where it starts. -/
theorem heads_of_parseResponseCode {data : Bytes} {x : CasInfo × Int32} {t : PacketReader}
    (h : parseResponseCode (.new data) = .ok (x, t)) : Heads data.1 x.1 x.2 := by
  obtain ⟨⟨token, r₁⟩, htoken, h⟩ := Outcome.bind_eq_ok.mp h
  rw [parseCasInfo, parseField_apply (valid_new data)] at htoken
  split at htoken
  · rename_i hfour
    obtain ⟨rfl, rfl⟩ := Prod.mk.inj (Outcome.ok.inj htoken)
    obtain ⟨⟨code, r₂⟩, hcode, h⟩ := Outcome.bind_eq_ok.mp h
    rw [parseInt, parseField_apply (valid_advance (valid_new data) hfour)] at hcode
    split at hcode
    · rename_i height
      obtain ⟨rfl, rfl⟩ := Prod.mk.inj (Outcome.ok.inj hcode)
      dsimp only at h
      split at h
      · exact (returns_failWithServerError _ _ _ h).elim
      · rename_i hpos
        obtain ⟨rfl, -⟩ := Prod.mk.inj (Outcome.ok.inj h)
        have hlen : 8 ≤ data.1.length := by
          change 4 ≤ data.1.length - (0 + 4) at height
          omega
        exact ⟨rfl, if_pos hlen, hpos⟩
    · cases hcode
  · cases htoken

/-- **A response that is accepted** starts with a head, and what is returned has been read
behind it. -/
theorem heads_of_packet {α : Type} {p : CasInfo × Int32 → Parser α}
    {C : CasInfo × Int32 → α → Prop} {data : Bytes} {a : α} (hp : ∀ x, Returns (p x) (C x))
    (h : (Prod.fst <$> (parseResponseCode >>= p) (.new data) : Outcome ProtocolError α) = .ok a) :
    ∃ x, Heads data.1 x.1 x.2 ∧ C x a := by
  obtain ⟨⟨a', t⟩, hseq, ha⟩ := Outcome.bind_eq_ok.mp h
  obtain rfl := Outcome.ok.inj ha
  obtain ⟨⟨x, r⟩, hhead, hrest⟩ := Outcome.bind_eq_ok.mp hseq
  exact ⟨x, heads_of_parseResponseCode hhead, hp x r _ t hrest⟩

/-- What is returned with the token and the code of the response. -/
theorem heads_of_result {α : Type} {p : CasInfo × Int32 → Parser (α × CasInfo)} {data : Bytes}
    {H : α → Int32} {a : α} {casInfo : CasInfo}
    (hp : ∀ x, Returns (p x) fun y => y.2 = x.1 ∧ H y.1 = x.2)
    (h : (Prod.fst <$> (parseResponseCode >>= p) (.new data) : Outcome ProtocolError _) =
      .ok (a, casInfo)) : Heads data.1 casInfo (H a) := by
  obtain ⟨⟨token, code⟩, hx, rfl, rfl⟩ := heads_of_packet hp h
  exact hx

/-- The token that is returned is the one the response starts with. -/
theorem token_of_packet {α : Type} {p : CasInfo × Int32 → Parser (α × CasInfo)} {data : Bytes}
    {a : α} {casInfo : CasInfo} (hp : ∀ x, Returns (p x) fun y => y.2 = x.1)
    (h : (Prod.fst <$> (parseResponseCode >>= p) (.new data) : Outcome ProtocolError _) =
      .ok (a, casInfo)) : casInfo = responseToken data.1 := by
  obtain ⟨x, hx, heq⟩ := heads_of_packet hp h
  exact heq.trans hx.token_eq

section Parsers

variable {data : Bytes} {casInfo : CasInfo}

theorem heads_parsePrepareAndExecute {protoVersion : Int32} {r : PrepareAndExecuteResult}
    (h : parsePrepareAndExecute data protoVersion = .ok (r, casInfo)) :
    Heads data.1 casInfo r.queryHandle := by
  refine heads_of_result (H := PrepareAndExecuteResult.queryHandle) (fun x => ?_) h
  refine returns_then fun _ => returns_then fun _ => returns_then fun _ => returns_then fun _ => ?_
  refine returns_then fun _ => returns_then fun _ => returns_then fun _ => returns_then fun _ => ?_
  refine returns_then fun _ => returns_then fun _ => returns_then fun _ => returns_then fun _ => ?_
  exact returns_pure ⟨rfl, rfl⟩

theorem heads_parsePrepare {r : PrepareResult} (h : parsePrepare data = .ok (r, casInfo)) :
    Heads data.1 casInfo r.queryHandle := by
  refine heads_of_result (H := PrepareResult.queryHandle) (fun x => ?_) h
  refine returns_then fun _ => returns_then fun _ => returns_then fun _ => returns_then fun _ => ?_
  exact returns_then fun _ => returns_then fun _ => returns_pure ⟨rfl, rfl⟩

theorem token_parseExecute {columns : Columns} {stmtType : StatementType} {protoVersion : Int32}
    {r : ExecuteResult} (h : parseExecute data columns stmtType protoVersion = .ok (r, casInfo)) :
    casInfo = responseToken data.1 := by
  refine token_of_packet (fun x => ?_) h
  refine returns_then fun _ => returns_then fun _ => returns_then fun _ => ?_
  exact returns_then fun _ => returns_then fun _ => returns_pure rfl

theorem token_parseFetch {columns : Columns} {stmtType : StatementType} {r : FetchResult}
    (h : parseFetch data columns stmtType = .ok (r, casInfo)) :
    casInfo = responseToken data.1 := by
  refine token_of_packet (fun x => ?_) h
  exact returns_then fun _ => returns_then fun _ => returns_pure rfl

theorem token_parseGetDbVersion {version : String}
    (h : parseGetDbVersion data = .ok (version, casInfo)) : casInfo = responseToken data.1 := by
  refine token_of_packet (fun x => ?_) h
  exact returns_then fun _ => returns_then fun _ => returns_pure rfl

theorem token_parseSimpleResponse (h : parseSimpleResponse data = .ok casInfo) :
    casInfo = responseToken data.1 := by
  obtain ⟨⟨x, t⟩, hhead, hx⟩ := Outcome.bind_eq_ok.mp h
  obtain rfl := Outcome.ok.inj hx
  exact (heads_of_parseResponseCode hhead).token_eq

end Parsers

end CubridDriver
