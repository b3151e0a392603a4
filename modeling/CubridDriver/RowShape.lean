import CubridDriver.Fetch

/-!
# The shape of rows

Callers index a row by the position of a column and match on the variant of the value
they find there. Whatever bytes a server sends, they find what they expect: a row of a
result has one value for each column, and each value is `NULL` or of the variant that
belongs to the type of its column. `CubridDriver.query_shape` says so of every query that
returns.

A column of type `NULL` says nothing of its values, and neither do the columns of a call;
but the rows of a call are never read by a query.
-/

namespace CubridDriver

open Checked

/-! ### Variants -/

/-- The value is of the variant that `readValue` gives the values of this type. -/
def DataType.Holds (t : DataType) : Value → Prop
  | .null => t = .null
  | .bool _ => False
  | .short _ => t = .short
  | .int _ => t = .int
  | .long _ => t = .bigint
  | .float _ => t = .float
  | .double _ => t = .double ∨ t = .monetary
  | .string _ => t = .char ∨ t = .string ∨ t = .nchar ∨ t = .varNChar ∨ t = .enum ∨ t = .numeric
  | .bytes _ => t = .bit ∨ t = .varBit ∨ t = .blob ∨ t = .clob ∨ t = .set ∨ t = .multiset ∨
      t = .sequence ∨ t = .object
  | .date .. => t = .date
  | .time .. => t = .time
  | .timestamp .. => t = .timestamp
  | .datetime .. => t = .datetime

/-- What a caller may find in a column. -/
def ColumnMetaData.Admits (col : ColumnMetaData) (v : Value) : Prop :=
  v = .null ∨ col.columnType = .null ∨ col.columnType.Holds v

/-- A row has a value for each column, and each column admits its value. -/
def Columns.Shape (columns : Columns) (row : Row) : Prop :=
  List.Forall₂ ColumnMetaData.Admits columns.1 row

/-- The rows of a statement with these columns; only a query has any. -/
def Columns.Shapes (columns : Columns) (stmtType : StatementType) (rows : List Row) : Prop :=
  (∀ row ∈ rows, columns.Shape row) ∧ (stmtType ≠ .select → rows = [])

/-! ### What the parsers return -/

/-- **A value is of the variant of its type.** -/
theorem returns_readValue (t : DataType) (size : ℕ) : Returns (readValue t size) t.Holds := by
  cases t with
  | null => exact returns_pure rfl
  | char => exact returns_then fun _ => returns_pure (by simp [DataType.Holds])
  | string => exact returns_then fun _ => returns_pure (by simp [DataType.Holds])
  | nchar => exact returns_then fun _ => returns_pure (by simp [DataType.Holds])
  | varNChar => exact returns_then fun _ => returns_pure (by simp [DataType.Holds])
  | enum => exact returns_then fun _ => returns_pure (by simp [DataType.Holds])
  | numeric => exact returns_then fun _ => returns_pure (by simp [DataType.Holds])
  | short => exact returns_then fun _ => returns_pure rfl
  | int => exact returns_then fun _ => returns_pure rfl
  | bigint => exact returns_then fun _ => returns_pure rfl
  | float => exact returns_then fun _ => returns_pure rfl
  | double => exact returns_then fun _ => returns_pure (.inl rfl)
  | monetary => exact returns_then fun _ => returns_pure (.inr rfl)
  | date => exact returns_then fun _ => returns_pure rfl
  | time => exact returns_then fun _ => returns_pure rfl
  | timestamp => exact returns_then fun _ => returns_pure rfl
  | datetime => exact returns_then fun _ => returns_pure rfl
  | _ => exact returns_then fun _ => returns_pure (by simp [DataType.Holds])

/-- **A cell holds what its column admits.** Outside of calls only a column of type `NULL`
leaves the type to the value. -/
theorem returns_readCell (col : ColumnMetaData) : Returns (readCell false col) col.Admits := by
  refine returns_then fun size => ?_
  refine returns_ite (fun _ => returns_pure (.inl rfl)) fun _ => ?_
  refine returns_ite (fun htagged => ?_) fun _ => ?_
  · have hnull : col.columnType = .null := htagged.resolve_left nofun
    exact fun _ _ _ _ => .inr (.inl hnull)
  · exact fun s v t h => .inr (.inr (returns_readValue _ _ s v t h))

theorem returns_parseRow (columns : Columns) : Returns (parseRow false columns) columns.Shape := by
  refine returns_then fun _ => returns_then fun _ => ?_
  exact returns_then fun _ => returns_forEach returns_readCell columns.1

/-- **The rows of anything but a call** have the shape of the columns. -/
theorem returns_parseRowData (tupleCount : Int32) (columns : Columns) {stmtType : StatementType}
    (h : stmtType.isCall = false) :
    Returns (parseRowData tupleCount columns stmtType) fun rows =>
      ∀ row ∈ rows, columns.Shape row := by
  refine returns_then fun _ => ?_
  rw [h]
  exact returns_repeatM (returns_parseRow columns) _

/-- A query is no call. -/
theorem isCall_of_isSelect {stmtType : StatementType} (h : stmtType.isSelect) :
    stmtType.isCall = false := by
  obtain rfl : stmtType = .select := of_decide_eq_true h
  rfl

theorem shapes_nil (columns : Columns) (stmtType : StatementType) : columns.Shapes stmtType [] :=
  ⟨fun _ h => absurd h List.not_mem_nil, fun _ => rfl⟩

/-- The rows that come with a response, if it is the response to a query. -/
theorem returns_parseInlineRows (columns : Columns) (stmtType : StatementType) (skipEmpty : Bool) :
    Returns (parseInlineRows columns stmtType skipEmpty) fun x => columns.Shapes stmtType x.2 := by
  refine returns_then fun left => ?_
  refine returns_ite (fun hselect => ?_) fun _ => returns_pure (shapes_nil columns stmtType)
  refine returns_then fun _ => returns_then fun tupleCount => ?_
  refine returns_ite (fun _ => ?_) fun _ => returns_pure (shapes_nil columns stmtType)
  refine returns_bind (returns_parseRowData _ _ (isCall_of_isSelect hselect.1)) fun rows hrows => ?_
  exact returns_pure ⟨hrows, fun h => absurd (of_decide_eq_true hselect.1) h⟩

/-- A parser, run on a whole packet. -/
theorem returns_packet {α : Type} {p : Parser α} {C : α → Prop} {data : Bytes} {a : α}
    (hp : Returns p C) (h : (Prod.fst <$> p (.new data) : Outcome ProtocolError α) = .ok a) :
    C a := by
  obtain ⟨x, hx, ha⟩ := Outcome.bind_eq_ok.mp h
  obtain rfl := Outcome.ok.inj ha
  exact hp _ _ x.2 hx

theorem shapes_parsePrepareAndExecute {data : Bytes} {protoVersion : Int32}
    {r : PrepareAndExecuteResult} {casInfo : CasInfo}
    (h : parsePrepareAndExecute data protoVersion = .ok (r, casInfo)) :
    r.columns.Shapes r.statementType r.rows := by
  refine returns_packet (C := fun x => x.1.columns.Shapes x.1.statementType x.1.rows) ?_ h
  refine returns_then fun head => returns_then fun _ => ?_
  refine returns_then fun b => returns_then fun bindCount => ?_
  refine returns_then fun _ => returns_then fun colCount => ?_
  refine returns_then fun columns => returns_then fun total => ?_
  refine returns_then fun _ => returns_then fun resultCount => ?_
  refine returns_then fun infos => returns_then fun _ => ?_
  refine returns_bind (returns_parseInlineRows columns _ false) fun x hx => ?_
  exact returns_pure hx

theorem shapes_parseExecute {data : Bytes} {columns : Columns} {stmtType : StatementType}
    {protoVersion : Int32} {r : ExecuteResult} {casInfo : CasInfo}
    (h : parseExecute data columns stmtType protoVersion = .ok (r, casInfo)) :
    columns.Shapes stmtType r.rows := by
  refine returns_packet (C := fun x => columns.Shapes stmtType x.1.rows) ?_ h
  refine returns_then fun head => returns_then fun _ => ?_
  refine returns_then fun resultCount => returns_then fun infos => ?_
  refine returns_then fun _ => ?_
  exact returns_bind (returns_parseInlineRows columns _ true) fun x hx => returns_pure hx

theorem shape_parseFetch {data : Bytes} {columns : Columns} {stmtType : StatementType}
    {r : FetchResult} {casInfo : CasInfo} (hselect : stmtType.isSelect)
    (h : parseFetch data columns stmtType = .ok (r, casInfo)) :
    ∀ row ∈ r.rows, columns.Shape row := by
  refine returns_packet (C := fun x => ∀ row ∈ x.1.rows, columns.Shape row) ?_ h
  refine returns_then fun head => returns_then fun tupleCount => ?_
  have hrows : Returns (if tupleCount > 0 ∧ columns.1 ≠ [] then
      parseRowData tupleCount columns stmtType else pure [] : Parser (List Row))
      fun rows => ∀ row ∈ rows, columns.Shape row :=
    returns_ite (fun _ => returns_parseRowData _ _ (isCall_of_isSelect hselect)) fun _ =>
      returns_pure (shapes_nil columns stmtType).1
  exact returns_bind hrows fun rows h => returns_pure h

/-! ### Queries -/

section Query

open Prog Connection

variable {τ : Type} [Socket τ] {fuel : ℕ} {client client' : Client τ}

/-- The fetch loop of a query adds rows of the same shape. -/
theorem shape_fetchLoop {queryHandle : Int32} {columns : Columns} {stmtType : StatementType}
    {totalCount : Int32} (hselect : stmtType.isSelect) {rows : List Row} :
    ∀ {fuel : ℕ} {fetchedCount : Int32} {client client' : Client τ} {acc : List Row},
      (∀ row ∈ acc, columns.Shape row) →
      Client.fetchLoop queryHandle columns stmtType totalCount fuel fetchedCount acc client =
        some (.ok rows, client') →
      ∀ row ∈ rows, columns.Shape row := by
  intro fuel
  induction fuel with
  | zero => exact fun _ h => by cases h
  | succ fuel ih =>
    intro fetchedCount client client' acc hacc h
    rw [Client.fetchLoop] at h
    split at h
    · obtain ⟨batch, client₁, hbatch, h⟩ := bind_eq_ok.mp h
      obtain ⟨resp, casInfo, hparse⟩ := parsed_of_exchange hbatch
      split at h
      · obtain ⟨heq, -⟩ := Prod.mk.inj (Option.some.inj h)
        exact Outcome.ok.inj heq ▸ hacc
      · obtain ⟨fetchedCount', client₂, -, h⟩ := bind_eq_ok.mp h
        refine ih (fun row hrow => ?_) h
        rcases List.mem_append.mp hrow with hrow | hrow
        · exact hacc row hrow
        · exact shape_parseFetch hselect hparse row hrow
    · obtain ⟨heq, -⟩ := Prod.mk.inj (Option.some.inj h)
      exact Outcome.ok.inj heq ▸ hacc

/-- Rows are fetched for a query only. -/
theorem shapes_fetchIfNeeded {queryHandle : Int32} {columns : Columns} {stmtType : StatementType}
    {totalCount : Int32} {acc rows : List Row} (hacc : columns.Shapes stmtType acc)
    (h : Client.fetchIfNeeded fuel queryHandle columns stmtType totalCount acc client =
      some (.ok rows, client')) : columns.Shapes stmtType rows := by
  rw [Client.fetchIfNeeded] at h
  split at h
  · rename_i hneeded
    refine ⟨shape_fetchLoop hneeded.1 hacc.1 h, fun hother => ?_⟩
    exact absurd (of_decide_eq_true hneeded.1) hother
  · obtain ⟨heq, -⟩ := Prod.mk.inj (Option.some.inj h)
    exact Outcome.ok.inj heq ▸ hacc

/-- **Rows have the shape of their columns**, whatever the server sends: when a query
returns, by its text or as a prepared statement without parameters, each row has a value
for each column, and each value is `NULL` or of the variant of its column's type; and a
statement that is no query has no rows. -/
theorem query_shape :
    (∀ (fuel : ℕ) sql params (client client' : Client τ) r,
      Client.query fuel sql params client = some (.ok r, client') →
      ∃ first client₁, Client.prepareAndExecute sql params client = some (.ok first, client₁) ∧
        r.columns = first.columns ∧ (∀ row ∈ r.rows, r.columns.Shape row) ∧
        (first.statementType ≠ .select → r.rows = [])) ∧
    ∀ (fuel : ℕ) (stmt : Statement) (client client' : Client τ) r,
      stmt.queryWith fuel [] client = some (.ok r, client') →
      r.columns = stmt.columns ∧ (∀ row ∈ r.rows, r.columns.Shape row) ∧
        (stmt.statementType ≠ .select → r.rows = []) := by
  constructor
  · intro fuel sql params client client' r h
    obtain ⟨first, client₁, hfirst, h⟩ := bind_eq_ok.mp h
    obtain ⟨rows, client₂, hrows, h⟩ := bind_eq_ok.mp h
    obtain ⟨_, client₃, -, h⟩ := bind_eq_ok.mp h
    obtain ⟨heq, -⟩ := Prod.mk.inj (Option.some.inj h)
    obtain rfl := Outcome.ok.inj heq
    refine ⟨first, client₁, hfirst, rfl, ?_⟩
    obtain ⟨_, _, -, hexchange⟩ := bind_eq_ok.mp hfirst
    obtain ⟨resp, casInfo, hparse⟩ := parsed_of_exchange hexchange
    exact shapes_fetchIfNeeded (shapes_parsePrepareAndExecute hparse) hrows
  · intro fuel stmt client client' r h
    rw [Statement.queryWith] at h
    split at h
    · cases h
    · rw [if_neg (not_not.mpr rfl)] at h
      obtain ⟨first, client₁, hfirst, h⟩ := bind_eq_ok.mp h
      obtain ⟨rows, client₂, hrows, h⟩ := bind_eq_ok.mp h
      obtain ⟨heq, -⟩ := Prod.mk.inj (Option.some.inj h)
      obtain rfl := Outcome.ok.inj heq
      obtain ⟨_, _, -, hexchange⟩ := bind_eq_ok.mp hfirst
      obtain ⟨resp, casInfo, hparse⟩ := parsed_of_exchange hexchange
      exact ⟨rfl, shapes_fetchIfNeeded (shapes_parseExecute hparse) hrows⟩

end Query

/-- The rows of a server with one integer column have one value each. -/
theorem query_shape_twoRows : ∃ r client', TwoRows.statement.queryWith 2 [] TwoRows.client =
    some (.ok r, client') ∧ r.rows = TwoRows.table ∧ ∀ row ∈ r.rows, r.columns.Shape row := by
  have hready : Ready TwoRows.network TwoRows.client := ⟨_, rfl, rfl, rfl⟩
  obtain ⟨first, client₁, hfirst, hready₁, -, htotal, hrows⟩ :=
    @executeHandle_serves _ _ _ _ _ _ _ TwoRows.serves (by decide) hready rfl TwoRows.statement
      rfl rfl
  obtain ⟨client₂, hfetch, -⟩ :=
    fetchIfNeeded_serves TwoRows.serves (by decide) (by decide) (by decide) hready₁
      (by decide : 1 < 2)
  have hquery : TwoRows.statement.queryWith 2 [] TwoRows.client =
      some (.ok ⟨TwoRows.columns, TwoRows.table, first.totalTupleCount⟩, client₂) := by
    have hopen : ¬TwoRows.statement.closed = true := Bool.false_ne_true
    rw [Statement.queryWith, if_neg hopen, if_neg (not_not.mpr rfl), Prog.bind_ok hfirst, htotal,
      hrows]
    exact Prog.bind_ok hfetch
  exact ⟨_, client₂, hquery, rfl, (query_shape.2 2 TwoRows.statement _ _ _ hquery).2.1⟩

end CubridDriver
