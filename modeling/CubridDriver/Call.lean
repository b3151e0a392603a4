import CubridDriver.Encode

/-!
# The rows of a call

A stored procedure returns rows like a query does, each value tagged with its type, and
the row parser knows how to read them: it looks at the statement type for that. But the
two places that decide whether there is anything to read ask for a `SELECT`. So the rows
of a call are read neither from the first response nor by a fetch, and a query of a
procedure returns none of them, whatever the server sends:
`CubridDriver.query_call_never`.
-/

namespace CubridDriver

open Checked Format Prog PacketReader PacketWriter

/-! ### The server -/

/-- The rows that come with the response to a call, in the layout of a query; where there
are none, this may be missing. -/
def callRowsFormat (columns : Columns) (stmtType : StatementType) (rows : List Row) :
    Language UInt8 :=
  {w | w = [] ∧ rows = [] ∨
    w ∈ any 4 * (countFormat rows.length * rowsFormat columns stmtType rows)}

/-- A network that does not fail, with a server that calls a procedure: it reports the table
as the result of the call and sends its first `k` rows along with the response. The other
rows may be fetched; what it answers to that is left open. -/
structure CallServes (network : Network) (protoVersion handle : Int32) (columns : Columns)
    (table : List Row) (k : ℕ) : Prop where
  /-- No socket call fails. -/
  prompt : ∀ clock, network.fate clock = .done
  /-- The response to `PrepareAndExecute`. -/
  prepareAndExecute : ∀ number request,
    functionByte request = some FunctionCode.prepareAndExecute.toU8 →
    ∃ frame casInfo r, network.answer number request = some frame ∧
      frame.data ∈ preludeFormat protoVersion casInfo r *
        callRowsFormat columns r.statementType (table.take k) ∧
      r.statementType.isCall ∧ r.queryHandle = handle ∧ r.columns = columns ∧
      r.totalTupleCount = Int32.ofNat table.length

/-! ### The rows are not read -/

/-- A call is no query. -/
theorem isSelect_of_isCall {stmtType : StatementType} (h : stmtType.isCall) :
    stmtType.isSelect = false := by
  cases stmtType with
  | select => cases h
  | _ => rfl

/-- **The parser of the first response stops before the rows** of anything but a query. -/
theorem parsePrepareAndExecute_prelude {protoVersion : Int32} {casInfo : CasInfo}
    {r : PrepareAndExecuteResult} {rest : Language UInt8} {data : Bytes}
    (hother : r.statementType.isSelect = false)
    (h : data.1 ∈ preludeFormat protoVersion casInfo r * rest) :
    parsePrepareAndExecute data protoVersion =
      .ok ({ r with tupleCount := 0, rows := [] }, casInfo) := by
  obtain ⟨word, hword, tail, -, hdata⟩ := Language.mem_mul.mp h
  obtain ⟨t, ht, -, -⟩ := readsAs_prelude protoVersion casInfo r word hword (.new data) tail
    (valid_new data) ((rest_new data).trans hdata.symm)
  have hinline : parseInlineRows r.columns r.statementType false t = .ok ((0, []), t) := by
    rw [parseInlineRows, bind_apply, getRemaining, Outcome.ok_bind, hother, if_neg (by simp)]
    rfl
  have hgo : parsePrepareAndExecute.go protoVersion (.new data) =
      .ok (({ r with tupleCount := 0, rows := [] }, casInfo), t) := by
    rw [parsePrepareAndExecute_go_eq, bind_apply, ht, Outcome.ok_bind]
    simp only [bind_apply, hinline, Outcome.ok_bind]
    rfl
  rw [parsePrepareAndExecute, hgo]
  rfl

section Query

variable {network : Network} {protoVersion handle : Int32} {columns : Columns} {table : List Row}
  {k : ℕ} {client : Client Wire}

/-- **A query of a procedure returns no row**, and does not ask for any. -/
theorem query_call (hserves : CallServes network protoVersion handle columns table k)
    (hready : Ready network client) (hproto : client.protoVersion = protoVersion) (fuel : ℕ)
    (sql : String) (params : List Value) :
    ∃ client', Client.query fuel sql params client =
        some (.ok ⟨columns, [], Int32.ofNat table.length⟩, client') ∧
      fetches (sent client') = fetches (sent client) := by
  have hfirst : ∃ r client₁, Client.prepareAndExecute sql params client = some (.ok r, client₁) ∧
      Ready network client₁ ∧ fetches (sent client₁) = fetches (sent client) ∧
      r.statementType.isSelect = false ∧ r.rows = [] ∧ r.columns = columns ∧
      r.totalTupleCount = Int32.ofNat table.length := by
    rw [Client.prepareAndExecute, bind_ok (t := client) (a := client) rfl]
    refine exchange_ready hready hserves.prompt (by decide) fun number request hrequest => ?_
    obtain ⟨frame, casInfo, r, hanswer, hframe, hcall, -, hcolumns, htotal⟩ :=
      hserves.prepareAndExecute number request hrequest
    have hother := isSelect_of_isCall hcall
    refine ⟨frame, casInfo, { r with tupleCount := 0, rows := [] }, hanswer, fun resp hresp => ?_,
      hother, rfl, hcolumns, htotal⟩
    exact parsePrepareAndExecute_prelude hother (by rw [hresp, hproto]; exact hframe)
  obtain ⟨r, client₁, hfirst, hready₁, hcount₁, hother, hrows, rfl, htotal⟩ := hfirst
  obtain ⟨client₂, hrelease, hcount₂⟩ := releaseHandle_ready hready₁ hserves.prompt r.queryHandle
  have hnofetch : Client.fetchIfNeeded fuel r.queryHandle r.columns r.statementType
      r.totalTupleCount r.rows client₁ = some (.ok [], client₁) := by
    rw [Client.fetchIfNeeded, hother, if_neg (by simp), hrows]
    rfl
  refine ⟨client₂, ?_, hcount₂.trans hcount₁⟩
  rw [Client.query, bind_ok hfirst, bind_ok hnofetch, bind_ok hrelease, htotal]
  rfl

/-- **The rows of a call are never delivered**: on no server that calls a procedure with
rows does a query return them. -/
theorem query_call_never (hserves : CallServes network protoVersion handle columns table k)
    (htable : table ≠ []) (hready : Ready network client)
    (hproto : client.protoVersion = protoVersion) (fuel : ℕ) (sql : String)
    (params : List Value) :
    ¬∃ r client', Client.query fuel sql params client = some (.ok r, client') ∧ r.rows = table := by
  rintro ⟨r, client', hquery, hrows⟩
  obtain ⟨_, hempty, -⟩ := query_call hserves hready hproto fuel sql params
  obtain ⟨heq, -⟩ := Prod.mk.inj (Option.some.inj (hempty.symm.trans hquery))
  obtain rfl := Outcome.ok.inj heq
  exact htable hrows.symm

end Query

/-! ### A procedure that returns one row

Its column has the type `NULL`, as the columns of a call have, and the type of the value
stands in the row. -/

namespace OneCall

/-- The column. -/
def column : ColumnMetaData := { TwoRows.column with columnType := .null }

/-- The columns. -/
def columns : Columns := ⟨[column], by decide⟩

/-- What the call returns. -/
def table : List Row := [[.int 7]]

/-- The first response, as it is to be read, without its row. -/
def result : PrepareAndExecuteResult where
  queryHandle := 1
  statementType := .call
  bindCount := 0
  columns := columns
  totalTupleCount := 1
  resultInfos := []
  tupleCount := 0
  rows := []

/-- The row, behind a code and the number of rows. -/
def rowsWord : List UInt8 :=
  writeInt 0 ++ (writeInt 1 ++ (table.map (encodeRow columns)).flatten)

/-- The response. -/
def frame : Frame :=
  ⟨(1, 2, 3, 4), (encodePrepareAndExecute 0 (1, 2, 3, 4) result).drop 4 ++ rowsWord, by decide⟩

theorem data_frame :
    frame.data = encodePrepareAndExecute 0 (1, 2, 3, 4) result ++ rowsWord := by
  rw [Frame.data, frame, ← List.append_assoc]
  rfl

/-- The server. -/
def network : Network := .ofServer fun _ _ => frame

theorem encode_mem : encodePrepareAndExecute 0 (1, 2, 3, 4) result ∈
    preludeFormat 0 (1, 2, 3, 4) result := by
  have hcol : ∀ col ∈ result.columns.1, col.Encodable := by
    intro col hcol
    obtain rfl := List.mem_singleton.mp hcol
    exact ⟨textEncodable_empty, textEncodable_empty, textEncodable_empty, textEncodable_empty⟩
  have hword := encodePrepareAndExecute_mem (r := result)
    ⟨by decide, by decide, hcol, by decide, nofun, Or.inr rfl, by decide, nofun, rfl⟩
    0 (1, 2, 3, 4)
  rw [prepareAndExecuteFormat_eq] at hword
  -- a call has no rows in the layout of a query, so this is the whole word
  obtain ⟨word, hprelude, tail, ⟨-, htail⟩, heq⟩ := Language.mem_mul.mp hword
  rcases htail with ⟨rfl, -⟩ | ⟨hselect, -⟩
  · rwa [← heq, List.append_nil]
  · cases hselect

theorem rowsWord_mem : rowsWord ∈ callRowsFormat columns .call table := by
  have hcell : encodeCell column (.int 7) ∈ cellFormat true column (.int 7) :=
    Or.inr ⟨.int, writeInt 7, rfl, nofun, by decide, rfl⟩
  refine Or.inr (Language.append_mem_mul rfl (Language.append_mem_mul ⟨by decide, rfl⟩ ?_))
  refine flatten_map_mem fun row hrow => ?_
  obtain rfl := List.mem_singleton.mp hrow
  have hlen : [Value.int 7].length = columns.1.length := rfl
  rw [rowFormat, if_pos hlen]
  refine Language.append_mem_mul rfl (Language.append_mem_mul rfl ?_)
  exact flatten_zipWith_mem (.cons hcell .nil)

theorem serves : CallServes network 0 1 columns table 1 where
  prompt _ := rfl
  prepareAndExecute number request _ := by
    refine ⟨frame, (1, 2, 3, 4), result, rfl, ?_, rfl, rfl, rfl, rfl⟩
    rw [data_frame]
    exact Language.append_mem_mul encode_mem rowsWord_mem

/-- A client of the server. -/
def client : Client Wire := Client.connected (Wire.new network)

theorem ready : Ready network client := ⟨_, rfl, rfl, rfl⟩

end OneCall

open OneCall in
/-- The row of the procedure does not arrive, and the result says that there is one. -/
theorem query_call_oneCall : CallServes network 0 1 columns table 1 ∧ ∀ fuel : ℕ, ∃ client',
    Client.query fuel "CALL p()" [] client = some (.ok ⟨columns, [], 1⟩, client') := by
  refine ⟨serves, fun fuel => ?_⟩
  obtain ⟨client', hquery, -⟩ := query_call serves ready rfl fuel "CALL p()" []
  exact ⟨client', hquery⟩

open OneCall in
/-- No query of the procedure returns its row. -/
theorem query_call_never_oneCall : ¬∃ r client',
    Client.query 5 "CALL p()" [] client = some (.ok r, client') ∧ r.rows = table :=
  query_call_never serves nofun ready rfl 5 "CALL p()" []

end CubridDriver
