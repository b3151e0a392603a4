import CubridDriver.Conversation
import CubridDriver.Locality

/-!
# Three ways to the rows

The rows of a query are parsed in three places: in the response to `PrepareAndExecute`, in
the response to `Execute`, which has no columns of its own, and in the response to `Fetch`.
The parsers repeat each other's code.

`CubridDriver.parsers_agree` says that they have stayed in step. Where the response to
`PrepareAndExecute` goes on behind its columns as the response to `Execute` does behind its
token, the two are parsed to the same result, or to the same error; and a response to
`Fetch` with the same row section is parsed to the same rows.
-/

namespace CubridDriver

open Checked Format PacketReader PacketWriter

/-! ### The common parts -/

/-- What comes between the total count and the rows. -/
def parseBatch (protoVersion : Int32) : Parser (List ResultInfo) := do
  let _ ← parseByte
  let resultCount ← parseInt
  let resultInfos ← parseResultInfos resultCount
  skipVersionFields protoVersion
  return resultInfos

/-- What comes behind the total count. -/
def parseBehindTotal (columns : Columns) (stmtType : StatementType) (protoVersion : Int32)
    (skipEmpty : Bool) : Parser (List ResultInfo × Int32 × List Row) := do
  let resultInfos ← parseBatch protoVersion
  let (tupleCount, rows) ← parseInlineRows columns stmtType skipEmpty
  return (resultInfos, tupleCount, rows)

/-- What comes behind the code of a fetch. -/
def parseFetched (columns : Columns) (stmtType : StatementType) : Parser (Int32 × List Row) := do
  let tupleCount ← parseInt
  let rows ← (if tupleCount > 0 ∧ columns.1 ≠ [] then parseRowData tupleCount columns stmtType
    else pure [] : Parser (List Row))
  return (tupleCount, rows)

/-- The response to `PrepareAndExecute` starts with the one to `Prepare`. -/
theorem parsePrepareAndExecute_go_prepare (protoVersion : Int32) :
    parsePrepareAndExecute.go protoVersion = do
      let (p, casInfo) ← parsePrepare.go
      let totalTupleCount ← parseInt
      let (resultInfos, tupleCount, rows) ←
        parseBehindTotal p.columns p.statementType protoVersion false
      return ({
        queryHandle := p.queryHandle, statementType := p.statementType, bindCount := p.bindCount
        columns := p.columns, totalTupleCount, resultInfos, tupleCount, rows }, casInfo) := by
  simp only [parsePrepareAndExecute.go, parsePrepare.go, parseBehindTotal, parseBatch, bind_assoc,
    pure_bind]

theorem parseExecute_go_eq (columns : Columns) (stmtType : StatementType) (protoVersion : Int32) :
    parseExecute.go columns stmtType protoVersion = do
      let (casInfo, totalTupleCount) ← parseResponseCode
      let (resultInfos, tupleCount, rows) ← parseBehindTotal columns stmtType protoVersion true
      return ({ totalTupleCount, resultInfos, tupleCount, rows }, casInfo) := by
  simp only [parseExecute.go, parseBehindTotal, parseBatch, bind_assoc, pure_bind]

theorem parseFetch_go_eq (columns : Columns) (stmtType : StatementType) :
    parseFetch.go columns stmtType = do
      let (casInfo, _) ← parseResponseCode
      let (tupleCount, rows) ← parseFetched columns stmtType
      return ({ tupleCount, rows }, casInfo) := by
  simp only [parseFetch.go, parseFetched, bind_assoc, pure_bind]

section Columns

variable {columns : Columns} (hcols : columns.1 ≠ []) (stmtType : StatementType)

include hcols

/-- With columns, nothing is skipped. -/
theorem parseInlineRows_skipEmpty :
    parseInlineRows columns stmtType true = parseInlineRows columns stmtType false := by
  simp only [parseInlineRows, hcols, and_false]

/-- **The rows of a query** are behind a code, as in the response to a fetch. -/
theorem parseInlineRows_select (hselect : stmtType.isSelect) {r : PacketReader}
    (hlen : 8 ≤ r.remaining) : parseInlineRows columns stmtType false r =
      (do let _ ← parseInt; parseFetched columns stmtType : Parser (Int32 × List Row)) r := by
  have hgate : stmtType.isSelect = true ∧ r.remaining ≥ SIZE_INT * 2 := ⟨hselect, hlen⟩
  have hrows (tupleCount : Int32) :
      (if tupleCount > 0 ∧ ¬(false = true ∧ columns.1 = []) then do
          return (tupleCount, ← parseRowData tupleCount columns stmtType)
        else return (tupleCount, []) : Parser (Int32 × List Row)) = (do
        let rows ← (if tupleCount > 0 ∧ columns.1 ≠ [] then
          parseRowData tupleCount columns stmtType else pure [] : Parser (List Row))
        return (tupleCount, rows)) := by
    by_cases hpos : tupleCount > 0
    · rw [if_pos ⟨hpos, fun h => hcols h.2⟩, if_pos ⟨hpos, hcols⟩]
    · rw [if_neg fun h => hpos h.1, if_neg fun h => hpos h.1, pure_bind]
  rw [parseInlineRows, bind_apply, getRemaining, Outcome.ok_bind, if_pos hgate]
  simp only [hrows, parseFetched]

end Columns

/-! ### Nothing depends on what was read before -/

theorem local_parsePrepare : Local parsePrepare.go := by
  refine alike_bind local_parseResponseCode fun x => alike_bind local_parseInt fun _ => ?_
  refine alike_bind local_parseByte fun stmtTypeByte => alike_bind local_parseInt fun _ => ?_
  refine alike_bind local_parseByte fun _ => alike_bind local_parseInt fun colCount => ?_
  exact alike_bind (local_parseColumnMetadata colCount) fun columns => alike_pure _

theorem local_parseBatch (protoVersion : Int32) : Local (parseBatch protoVersion) := by
  refine alike_bind local_parseByte fun _ => alike_bind local_parseInt fun resultCount => ?_
  refine alike_bind (local_parseResultInfos resultCount) fun resultInfos => ?_
  exact alike_bind (local_skipVersionFields protoVersion) fun _ => alike_pure _

theorem local_parseBehindTotal (columns : Columns) (stmtType : StatementType)
    (protoVersion : Int32) (skipEmpty : Bool) :
    Local (parseBehindTotal columns stmtType protoVersion skipEmpty) := by
  refine alike_bind (local_parseBatch protoVersion) fun resultInfos => ?_
  exact alike_bind (local_parseInlineRows columns stmtType skipEmpty) fun x => alike_pure _

theorem local_parseFetched (columns : Columns) (stmtType : StatementType) :
    Local (parseFetched columns stmtType) := by
  refine alike_bind local_parseInt fun tupleCount => alike_bind ?_ fun rows => alike_pure _
  exact alike_ite (local_parseRowData tupleCount columns stmtType) (alike_pure _)

/-! ### The agreement -/

/-- What the response to `PrepareAndExecute` says about the execution. -/
def PrepareAndExecuteResult.executed (r : PrepareAndExecuteResult) : ExecuteResult where
  totalTupleCount := r.totalTupleCount
  resultInfos := r.resultInfos
  tupleCount := r.tupleCount
  rows := r.rows

/-- What is left of the response to `Execute` behind the fields of the protocol version. -/
def rowBytes (data : Bytes) (protoVersion : Int32) : Outcome ProtocolError (List UInt8) :=
  (fun x => x.2.rest) <$> (parseResponseCode >>= fun _ => parseBatch protoVersion) (.new data)

/-- The response starts with a token and a code. -/
theorem parseResponseCode_new {data : Bytes} {casInfo : CasInfo} {code : Int32}
    {w : List UInt8} (hcode : 0 ≤ code) (hdata : data.1 = casInfo.toList ++ (writeInt code ++ w)) :
    ∃ r, parseResponseCode (.new data) = .ok ((casInfo, code), r) ∧ r.Valid ∧ r.rest = w := by
  refine readsAs_head casInfo code _ ⟨hcode, rfl⟩ (.new data) w (valid_new data) ?_
  rw [List.append_assoc]
  exact hdata

section Agreement

variable {data execData : Bytes} {p : PrepareResult} {casInfo casInfo' : CasInfo}
  {r : PacketReader} {n : Int32} {T : List UInt8}

/-- What is made of the part behind the total count by `parsePrepareAndExecute`. -/
theorem parsePrepareAndExecute_behind
    (hprepare : parsePrepare.go (.new data) = .ok ((p, casInfo), r))
    (hrest : r.rest = writeInt n ++ T) (protoVersion : Int32) :
    ∃ s, s.Valid ∧ s.rest = T ∧ parsePrepareAndExecute data protoVersion =
      (fun x => ({
        queryHandle := p.queryHandle, statementType := p.statementType, bindCount := p.bindCount
        columns := p.columns, totalTupleCount := n, resultInfos := x.1.1
        tupleCount := x.1.2.1, rows := x.1.2.2 }, casInfo)) <$>
      parseBehindTotal p.columns p.statementType protoVersion false s := by
  obtain ⟨-, -, hvalid, -, -⟩ :=
    (local_parsePrepare _ _ ⟨valid_new data, valid_new data, rfl⟩).ok_left hprepare
  obtain ⟨s, hint, hs, hT⟩ := decodes_parseInt n r T hvalid hrest
  refine ⟨s, hs, hT, ?_⟩
  rw [parsePrepareAndExecute, parsePrepareAndExecute_go_prepare, bind_apply, hprepare,
    Outcome.ok_bind]
  dsimp only
  rw [bind_apply, hint, Outcome.ok_bind, bind_apply]
  cases parseBehindTotal p.columns p.statementType protoVersion false s <;> rfl

/-- What is made of the part behind the total count by `parseExecute`. -/
theorem parseExecute_behind (hn : 0 ≤ n)
    (hdata : execData.1 = casInfo'.toList ++ (writeInt n ++ T)) (columns : Columns)
    (stmtType : StatementType) (protoVersion : Int32) :
    ∃ s, s.Valid ∧ s.rest = T ∧ parseResponseCode (.new execData) = .ok ((casInfo', n), s) ∧
      parseExecute execData columns stmtType protoVersion =
        (fun x => ({
          totalTupleCount := n, resultInfos := x.1.1, tupleCount := x.1.2.1
          rows := x.1.2.2 }, casInfo')) <$>
        parseBehindTotal columns stmtType protoVersion true s := by
  obtain ⟨s, hcode, hs, hT⟩ := parseResponseCode_new hn hdata
  refine ⟨s, hs, hT, hcode, ?_⟩
  rw [parseExecute, parseExecute_go_eq, bind_apply, hcode, Outcome.ok_bind]
  dsimp only
  rw [bind_apply]
  cases parseBehindTotal columns stmtType protoVersion true s <;> rfl

/-- A response to `Fetch` with the rows of a query. -/
theorem parseFetch_of_inlineRows {columns : Columns} {stmtType : StatementType} {code : Int32}
    {S : List UInt8} {s t : PacketReader} {tupleCount : Int32} {rows : List Row}
    (hcols : columns.1 ≠ []) (hselect : stmtType.isSelect) (hs : s.Valid)
    (hrest : s.rest = writeInt code ++ S) (hcode : 0 ≤ code) (hlen : 4 ≤ S.length)
    (hrows : parseInlineRows columns stmtType false s = .ok ((tupleCount, rows), t))
    {fetchData : Bytes} (hdata : fetchData.1 = casInfo.toList ++ (writeInt code ++ S)) :
    parseFetch fetchData columns stmtType = .ok (⟨tupleCount, rows⟩, casInfo) := by
  have hremaining : 8 ≤ s.remaining := by
    rw [← length_rest, hrest, List.length_append, length_writeInt]
    omega
  -- the rows of the query, behind the code
  obtain ⟨u, hint, hu, hS⟩ := decodes_parseInt code s S hs hrest
  rw [parseInlineRows_select hcols stmtType hselect hremaining, bind_apply, hint,
    Outcome.ok_bind] at hrows
  -- and those of the fetch
  obtain ⟨v, hhead, hv, hvS⟩ := parseResponseCode_new hcode hdata
  obtain ⟨w, hfetched, -⟩ :=
    (local_parseFetched columns stmtType u v ⟨hu, hv, hS.trans hvS.symm⟩).ok_left hrows
  rw [parseFetch, parseFetch_go_eq, bind_apply, hhead, Outcome.ok_bind]
  dsimp only
  rw [bind_apply, hfetched]
  rfl

/-- **The parsers agree.** Let the response to `PrepareAndExecute` have columns, and `T`
behind its total count, and let `T` stand behind the same count in a response to `Execute`.
The two are parsed to the same result, or to the same error. And where they are parsed to
a result of a query, with the bytes `S` of a code and more behind the fields of the protocol
version, a response to `Fetch` that consists of `S` is parsed to the same rows. -/
theorem parsers_agree (hprepare : parsePrepare.go (.new data) = .ok ((p, casInfo), r))
    (hcols : p.columns.1 ≠ []) (hrest : r.rest = writeInt n ++ T) (hn : 0 ≤ n)
    (hdata : execData.1 = casInfo'.toList ++ (writeInt n ++ T)) (protoVersion : Int32) :
    (fun x => x.1.executed) <$> parsePrepareAndExecute data protoVersion =
        Prod.fst <$> parseExecute execData p.columns p.statementType protoVersion ∧
      ∀ (result : PrepareAndExecuteResult) (casInfo'' : CasInfo) (code : Int32) (S : List UInt8)
        (fetchData : Bytes), parsePrepareAndExecute data protoVersion = .ok (result, casInfo) →
        p.statementType.isSelect → rowBytes execData protoVersion = .ok (writeInt code ++ S) →
        0 ≤ code → 4 ≤ S.length → fetchData.1 = casInfo''.toList ++ (writeInt code ++ S) →
        parseFetch fetchData p.columns p.statementType =
          .ok (⟨result.tupleCount, result.rows⟩, casInfo'') := by
  obtain ⟨s, hs, hsT, hdirect⟩ := parsePrepareAndExecute_behind hprepare hrest protoVersion
  obtain ⟨s', hs', hsT', hhead, hprepared⟩ :=
    parseExecute_behind hn hdata p.columns p.statementType protoVersion
  have hsame : SameRest s s' := ⟨hs, hs', hsT.trans hsT'.symm⟩
  constructor
  · have hskip : parseBehindTotal p.columns p.statementType protoVersion true =
        parseBehindTotal p.columns p.statementType protoVersion false := by
      rw [parseBehindTotal, parseBehindTotal, parseInlineRows_skipEmpty hcols]
    rw [hdirect, hprepared, hskip]
    have hends := local_parseBehindTotal p.columns p.statementType protoVersion false _ _ hsame
    generalize parseBehindTotal p.columns p.statementType protoVersion false s = x at hends ⊢
    generalize parseBehindTotal p.columns p.statementType protoVersion false s' = y at hends ⊢
    cases hends <;> rfl
  · intro result casInfo'' code S fetchData hresult hselect hbytes hcode hlen hfetch
    rw [hdirect] at hresult
    obtain ⟨x, hbehind, heq⟩ := Outcome.bind_eq_ok.mp hresult
    obtain ⟨rfl, -⟩ := Prod.mk.inj (Outcome.ok.inj heq)
    rw [parseBehindTotal, bind_apply] at hbehind
    obtain ⟨⟨infos, u⟩, hbatch, hinline⟩ := Outcome.bind_eq_ok.mp hbehind
    rw [bind_apply] at hinline
    obtain ⟨⟨⟨tupleCount, rows⟩, v⟩, hrows, heq⟩ := Outcome.bind_eq_ok.mp hinline
    obtain rfl := Outcome.ok.inj heq
    obtain ⟨u', hbatch', hu⟩ := (local_parseBatch protoVersion _ _ hsame).ok_left hbatch
    refine parseFetch_of_inlineRows hcols hselect hu.1 ?_ hcode hlen hrows hfetch
    rw [rowBytes, bind_apply, hhead, Outcome.ok_bind, hbatch'] at hbytes
    rw [hu.2.2]
    exact Outcome.ok.inj hbytes

end Agreement

/-- The response to a `PrepareAndExecute` request, up to its columns. -/
def prepareFormat (casInfo : CasInfo) (p : PrepareResult) : Language UInt8 :=
  headFormat casInfo p.queryHandle *
  (any 4 *
  (stmtTypeFormat p.statementType *
  (intFormat p.bindCount *
  (any 1 *
  (countFormat p.columns.1.length *
  (p.columns.1.map columnFormat).prod)))))

/-- **The columns are read back**, whatever follows. -/
theorem readsAs_prepare (casInfo : CasInfo) (p : PrepareResult) :
    ReadsAs parsePrepare.go (prepareFormat casInfo p) (p, casInfo) := by
  refine (readsAs_head _ _).bind ((readsWith_field _ _).bind fun _ _ => ?_)
  refine (readsWith_stmtType _).bind fun b hb => (readsAs_int _).bind ?_
  refine (readsWith_field _ _).bind fun _ _ => (readsWith_count _).bind fun count hcount => ?_
  obtain ⟨hcols, rfl⟩ := hcount
  rw [hb]
  exact (readsAs_columns p.columns rfl hcols).map _

namespace TwoRows

/-- The first part of the response to a query, with the columns. -/
def prepared : PrepareResult where
  queryHandle := 1
  statementType := .select
  bindCount := 0
  columns := columns

/-- The bytes of this part, behind the code. -/
def preparedWord : List UInt8 :=
  writeInt 0 ++ ([21] ++ (writeInt 0 ++ ([0] ++ (writeInt 1 ++ columnWord))))

theorem preparedWord_mem :
    CasInfo.toList (1, 2, 3, 4) ++ (writeInt 1 ++ preparedWord) ∈
      prepareFormat (1, 2, 3, 4) prepared := by
  refine frame_mem (h := by decide) (by decide) (Language.append_mem_mul rfl ?_)
  refine Language.append_mem_mul ⟨21, rfl, rfl⟩ (Language.append_mem_mul rfl ?_)
  refine Language.append_mem_mul rfl (Language.append_mem_mul ⟨by decide, rfl⟩ ?_)
  change _ ∈ [columnFormat column].prod
  rw [List.prod_singleton]
  exact columnWord_mem

end TwoRows

open TwoRows in
/-- The first row is the same in all three responses. -/
theorem parsers_agree_twoRows :
    (fun x => x.1.executed) <$>
          parsePrepareAndExecute (frame 1 prepareAndExecuteWord (by decide)).response 0 =
        Prod.fst <$> parseExecute (frame 2 ([0] ++ inlineWord) (by decide)).response columns
          .select 0 ∧
      parseFetch (frame 0 (writeInt 1 ++ rowWord 7) (by decide)).response columns .select =
        .ok (⟨1, [[.int 7]]⟩, (1, 2, 3, 4)) := by
  obtain ⟨r, hprepare, -, hrest⟩ := readsAs_prepare (1, 2, 3, 4) prepared _ preparedWord_mem
    (.new (frame 1 prepareAndExecuteWord (by decide)).response) (writeInt 2 ++ ([0] ++ inlineWord))
    (valid_new _) rfl
  have hexecute : (frame 2 ([0] ++ inlineWord) (by decide)).response.1 =
      CasInfo.toList (1, 2, 3, 4) ++ (writeInt 2 ++ ([0] ++ inlineWord)) := rfl
  obtain ⟨hexecuted, hfetch⟩ := parsers_agree hprepare nofun hrest (by decide) hexecute 0
  refine ⟨hexecuted, hfetch result _ 0 (writeInt 1 ++ rowWord 7) _ ?_ rfl ?_ ?_ ?_ rfl⟩
  · exact parsePrepareAndExecute_format prepareAndExecuteWord_mem
  · rfl
  · decide
  · decide

end CubridDriver
