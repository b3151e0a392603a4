import CubridDriver.Framing
import CubridDriver.RowShape

/-!
# The count of the fetch loop

The loop that fetches the rows of a query keeps two accounts: the rows, and a counter, by
which it goes on or ends. The rows are those that were parsed; what is added to the counter
is the number that the server reports. A reported number of zero ends the loop, so that a
server without rows cannot keep it going.

A negative number can. No rows are parsed for it, and the counter goes down. Without
columns the rows of a positive number are not parsed either. `CubridDriver.keepsCount_iff`
says that this, and a number that takes the counter beyond its range, is all that can go
wrong: on every other run of the loop the counter counts the rows, grows in every iteration
and never overflows, and the loop ends after at most one request for each row that is
missing.
-/

namespace CubridDriver

open Checked Prog Connection PacketWriter

variable {τ : Type} [Socket τ]

/-! ### Iterations -/

/-- What the loop has when it checks its condition. -/
structure LoopHead (τ : Type) where
  /-- The client. -/
  client : Client τ
  /-- The counter. -/
  fetchedCount : Int32
  /-- The rows. -/
  rows : List Row

namespace LoopHead

/-- The first time, the counter is the number of the rows, as a 32-bit integer. -/
def first (client : Client τ) (rows : List Row) : LoopHead τ where
  client := client
  fetchedCount := Int32.ofNat rows.length
  rows := rows

variable (cursor : Cursor) (totalCount : Int32)

/-- One more fetch is made, and the response to it is accepted. -/
def Fetches (head : LoopHead τ) (result : FetchResult) (client' : Client τ) : Prop :=
  head.fetchedCount < totalCount ∧
    cursor.fetch head.fetchedCount head.client = some (.ok result, client')

/-- One iteration that does not leave the loop. -/
inductive Iterates : LoopHead τ → LoopHead τ → Prop
  | intro {head : LoopHead τ} {result : FetchResult} {client' : Client τ} {fetchedCount' : Int32}
      (hfetch : head.Fetches cursor totalCount result client') (hmore : result.tupleCount ≠ 0)
      (hadd : (checkedAdd head.fetchedCount result.tupleCount : Outcome Error Int32) =
        .ok fetchedCount') :
      Iterates head ⟨client', fetchedCount', head.rows ++ result.rows⟩

/-- The heads after a number of iterations. -/
inductive ReachedIn (head : LoopHead τ) : ℕ → LoopHead τ → Prop
  | zero : ReachedIn head 0 head
  | succ {k : ℕ} {head₁ head₂ : LoopHead τ} (h : ReachedIn head k head₁)
      (hstep : Iterates cursor totalCount head₁ head₂) : ReachedIn head (k + 1) head₂

/-- The loop, from this head on. -/
def loop (fuel : ℕ) (head : LoopHead τ) : Option (Outcome Error (List Row) × Client τ) :=
  Client.fetchLoop cursor.handle cursor.columns cursor.stmtType totalCount fuel
    head.fetchedCount head.rows head.client

variable {cursor} {totalCount}

/-- **An iteration of the loop.** -/
theorem loop_iterates {head head' : LoopHead τ} (h : Iterates cursor totalCount head head')
    (fuel : ℕ) : head.loop cursor totalCount (fuel + 1) = head'.loop cursor totalCount fuel := by
  obtain ⟨⟨hlt, hfetch⟩, hmore, hadd⟩ := h
  rw [Cursor.fetch] at hfetch
  rw [loop, Client.fetchLoop, if_pos hlt, bind_ok hfetch, if_neg hmore, hadd]
  rfl

/-- The loop gets to the heads that are reached. -/
theorem loop_reachedIn {head head' : LoopHead τ} {k : ℕ}
    (h : ReachedIn cursor totalCount head k head') (fuel : ℕ) :
    head.loop cursor totalCount (k + fuel) = head'.loop cursor totalCount fuel := by
  induction h generalizing fuel with
  | zero => rw [Nat.zero_add]
  | @succ k _ _ _ hstep ih =>
    rw [Nat.add_assoc, Nat.add_comm 1 fuel, ih (fuel + 1)]
    exact loop_iterates hstep fuel

end LoopHead

open LoopHead

/-! ### The rows of a response -/

/-- The rows that are announced are read. -/
theorem length_parseRowData (tupleCount : Int32) (columns : Columns) (stmtType : StatementType) :
    Returns (parseRowData tupleCount columns stmtType) fun rows =>
      rows.length = tupleCount.toInt.toNat :=
  returns_then fun _ => returns_length_repeatM _ _

/-- Rows are parsed for a positive number, where there are columns. -/
theorem length_parseFetch {data : Bytes} {columns : Columns} {stmtType : StatementType}
    {result : FetchResult} {casInfo : CasInfo}
    (h : parseFetch data columns stmtType = .ok (result, casInfo)) :
    result.rows.length =
      if result.tupleCount > 0 ∧ columns.1 ≠ [] then result.tupleCount.toInt.toNat else 0 := by
  refine returns_packet (C := fun x => x.1.rows.length =
    if x.1.tupleCount > 0 ∧ columns.1 ≠ [] then x.1.tupleCount.toInt.toNat else 0) ?_ h
  refine returns_then fun head => returns_then fun tupleCount => ?_
  refine returns_bind (B := fun rows => rows.length =
    if tupleCount > 0 ∧ columns.1 ≠ [] then tupleCount.toInt.toNat else 0) ?_
    fun rows hrows => returns_pure hrows
  refine returns_ite (fun hread => ?_) fun hread => returns_pure ?_
  · rw [if_pos hread]
    exact length_parseRowData tupleCount columns stmtType
  · rw [if_neg hread]
    rfl

theorem length_of_fetches {cursor : Cursor} {totalCount : Int32} {head : LoopHead τ}
    {result : FetchResult} {client' : Client τ}
    (h : head.Fetches cursor totalCount result client') : result.rows.length =
      if result.tupleCount > 0 ∧ cursor.columns.1 ≠ [] then result.tupleCount.toInt.toNat
      else 0 := by
  obtain ⟨resp, casInfo, hparse⟩ := parsed_of_exchange h.2
  exact length_parseFetch hparse

/-! ### The count -/

/-- The number of rows that a response reports can be added to the counter: it is not
negative, there are columns to read the rows by, and the sum is in range. -/
structure FetchResult.Countable (result : FetchResult) (columns : Columns) (rows : ℕ) :
    Prop where
  nonneg : 0 ≤ result.tupleCount
  columns : result.tupleCount = 0 ∨ columns.1 ≠ []
  inRange : rows + result.tupleCount.toInt < 2 ^ 31

/-- On the run of the loop from these rows every number that is reported can be added. -/
def CountableRun (cursor : Cursor) (totalCount : Int32) (client : Client τ) (rows : List Row) :
    Prop :=
  ∀ k head result client', ReachedIn cursor totalCount (first client rows) k head →
    head.Fetches cursor totalCount result client' →
    result.Countable cursor.columns head.rows.length

/-- What the loop keeps, on the run from these rows. -/
structure KeepsCount (cursor : Cursor) (totalCount : Int32) (client : Client τ)
    (rows : List Row) : Prop where
  /-- The counter counts the rows. -/
  count : ∀ k head, ReachedIn cursor totalCount (first client rows) k head →
    head.fetchedCount.toInt = head.rows.length
  /-- The position a request asks for does not overflow. -/
  position : ∀ k head, ReachedIn cursor totalCount (first client rows) k head →
    head.fetchedCount < totalCount →
    ∃ start, (checkedAdd head.fetchedCount 1 : Outcome Error Int32) = .ok start
  /-- Nor does the counter, and it grows unless the loop is left. -/
  advance : ∀ k head result client', ReachedIn cursor totalCount (first client rows) k head →
    head.Fetches cursor totalCount result client' → result.tupleCount ≠ 0 →
    ∃ fetchedCount', (checkedAdd head.fetchedCount result.tupleCount : Outcome Error Int32) =
      .ok fetchedCount' ∧ head.fetchedCount < fetchedCount'
  /-- A request follows those of the iterations before, and there is a row for each. -/
  requests : ∀ k head, ReachedIn cursor totalCount (first client rows) k head →
    head.fetchedCount < totalCount → ((k + 1 : ℕ) : ℤ) ≤ totalCount.toInt - rows.length
  /-- The loop ends. -/
  ends : ∀ fuel : ℕ, (totalCount.toInt - rows.length).toNat < fuel →
    Client.fetchRemaining fuel cursor.handle cursor.columns cursor.stmtType totalCount rows
      client ≠ none

/-- An exchange ends, in whatever way. -/
theorem halts_exchange {α : Type} (request : CasInfo → Outcome Error (List UInt8))
    (parse : Bytes → Outcome ProtocolError (α × CasInfo)) :
    (exchange request parse : Prog (Connection τ) Error α).Halts := by
  refine (halts_some _).bind fun conn => (halts_lift _).bind fun req => ?_
  refine (halts_some _).bind fun _ => Halts.bind ?_ fun resp => (halts_lift _).bind fun x => ?_
  · exact (halts_some _).bind fun _ => (halts_some _).bind fun _ => halts_some _
  · exact (halts_some _).bind fun _ => halts_some _

omit [Socket τ] in
theorem halts_onConn {α : Type} {p : Prog (Connection τ) Error α} (h : p.Halts) :
    (Client.onConn p).Halts := by
  intro client
  rw [Client.onConn]
  split
  · exact Option.some_ne_none _
  · exact fun hnone => h _ (Option.map_eq_none_iff.mp hnone)

section Run

variable {cursor : Cursor} {totalCount : Int32} {client : Client τ} {rows : List Row}

theorem toInt_checkedAdd {a b c : Int32} (h : (checkedAdd a b : Outcome Error Int32) = .ok c) :
    c.toInt = a.toInt + b.toInt := by
  rw [checkedAdd] at h
  split at h
  · rename_i hrange
    obtain rfl := Outcome.ok.inj h
    exact (@checkedAdd_eq_ok Error a b hrange.1 hrange.2).2
  · cases h

/-- **One iteration**: a number that can be added is the number of the rows. -/
theorem FetchResult.Countable.add {head : LoopHead τ} {result : FetchResult} {client' : Client τ}
    (h : result.Countable cursor.columns head.rows.length)
    (hcount : head.fetchedCount.toInt = head.rows.length)
    (hfetch : head.Fetches cursor totalCount result client') (hmore : result.tupleCount ≠ 0) :
    ∃ fetchedCount', (checkedAdd head.fetchedCount result.tupleCount : Outcome Error Int32) =
        .ok fetchedCount' ∧ head.fetchedCount < fetchedCount' ∧
      fetchedCount'.toInt = (head.rows ++ result.rows).length := by
  have hnonneg := Int32.le_iff_toInt_le.mp h.nonneg
  have hne : result.tupleCount.toInt ≠ 0 := mt (Int32.toInt_inj (y := 0)).mp hmore
  rw [Int32.toInt_zero] at hnonneg
  have hpos : result.tupleCount > 0 := by
    rw [gt_iff_lt, Int32.lt_iff_toInt_lt, Int32.toInt_zero]
    omega
  have hlen := length_of_fetches hfetch
  rw [if_pos ⟨hpos, h.columns.resolve_left hmore⟩] at hlen
  have hrange := h.inRange
  obtain ⟨hadd, hsum⟩ := @checkedAdd_eq_ok Error head.fetchedCount result.tupleCount
    (by omega) (by omega)
  refine ⟨_, hadd, ?_, ?_⟩
  · rw [Int32.lt_iff_toInt_lt]
    omega
  · rw [hsum, List.length_append]
    omega

/-- **The invariant of the loop**, where every number can be added. -/
theorem count_of_reachedIn (hrows : rows.length < 2 ^ 31)
    (hcountable : CountableRun cursor totalCount client rows) {k : ℕ} {head : LoopHead τ}
    (h : ReachedIn cursor totalCount (first client rows) k head) :
    head.fetchedCount.toInt = head.rows.length ∧ k + rows.length ≤ head.rows.length := by
  induction h with
  | zero => exact ⟨toInt_ofNat hrows, by simp [first]⟩
  | @succ k head₁ head₂ hreached hstep ih =>
    obtain ⟨hcount, hle⟩ := ih
    obtain ⟨hfetch, hmore, hadd⟩ := hstep
    obtain ⟨fetchedCount', hadd', hlt, hcount'⟩ :=
      (hcountable k head₁ _ _ hreached hfetch).add hcount hfetch hmore
    obtain rfl := Outcome.ok.inj (hadd.symm.trans hadd')
    refine ⟨hcount', ?_⟩
    rw [Int32.lt_iff_toInt_lt, hcount, hcount'] at hlt
    change _ ≤ (head₁.rows ++ _).length
    omega

/-- **The loop ends**, by induction on its fuel: each iteration takes one and adds a row. -/
theorem loop_ends (hrows : rows.length < 2 ^ 31)
    (hcountable : CountableRun cursor totalCount client rows) {fuel k : ℕ} {head : LoopHead τ}
    (h : ReachedIn cursor totalCount (first client rows) k head)
    (hfuel : (totalCount.toInt - head.rows.length).toNat < fuel) :
    head.loop cursor totalCount fuel ≠ none := by
  induction fuel generalizing k head with
  | zero => exact absurd hfuel (Nat.not_lt_zero _)
  | succ fuel ih =>
    obtain ⟨hcount, -⟩ := count_of_reachedIn hrows hcountable h
    by_cases hlt : head.fetchedCount < totalCount
    · rcases hfetch : cursor.fetch head.fetchedCount head.client with - | ⟨result | e | -, client'⟩
      · exact absurd hfetch (halts_onConn (halts_exchange _ _) _)
      · by_cases hmore : result.tupleCount = 0
        · rw [Cursor.fetch] at hfetch
          rw [loop, Client.fetchLoop, if_pos hlt, bind_ok hfetch, if_pos hmore]
          exact Option.some_ne_none _
        · obtain ⟨fetchedCount', hadd, hgrows, hcount'⟩ :=
            (hcountable k head _ _ h ⟨hlt, hfetch⟩).add hcount ⟨hlt, hfetch⟩ hmore
          have hstep := Iterates.intro ⟨hlt, hfetch⟩ hmore hadd
          rw [loop_iterates hstep]
          refine ih (h.succ hstep) ?_
          rw [Int32.lt_iff_toInt_lt] at hlt hgrows
          change (totalCount.toInt - (head.rows ++ result.rows).length).toNat < fuel
          omega
      -- an error leaves the loop, and so does a panic
      · rw [Cursor.fetch] at hfetch
        rw [loop, Client.fetchLoop, if_pos hlt, bind_err hfetch]
        exact Option.some_ne_none _
      · rw [Cursor.fetch] at hfetch
        rw [loop, Client.fetchLoop, if_pos hlt, bind_eq_some.mpr (.inr (.inr ⟨hfetch, rfl⟩))]
        exact Option.some_ne_none _
    · rw [loop, Client.fetchLoop, if_neg hlt]
      exact Option.some_ne_none _

/-- **The loop keeps its count** exactly when it starts with a number of rows that is in
range, and every number that is reported on its run can be added. -/
theorem keepsCount_iff (cursor : Cursor) (totalCount : Int32) (client : Client τ)
    (rows : List Row) : KeepsCount cursor totalCount client rows ↔
      rows.length < 2 ^ 31 ∧ CountableRun cursor totalCount client rows := by
  constructor
  · intro h
    have hstart : (Int32.ofNat rows.length).toInt = rows.length := h.count 0 _ .zero
    have hrange := (Int32.ofNat rows.length).toInt_lt
    refine ⟨by omega, fun k head result client' hreached hfetch => ?_⟩
    have hcount := h.count k head hreached
    by_cases hmore : result.tupleCount = 0
    -- nothing is added
    · have hhead := head.fetchedCount.toInt_lt
      have hzero : result.tupleCount.toInt = 0 := congrArg Int32.toInt hmore
      exact ⟨Int32.le_iff_toInt_le.mpr hzero.ge, .inl hmore, by omega⟩
    -- the counter grows, and what it grows by is the number of the rows
    · obtain ⟨fetchedCount', hadd, hgrows⟩ := h.advance k head result client' hreached hfetch hmore
      have hsum := toInt_checkedAdd hadd
      have hrange' := fetchedCount'.toInt_lt
      have hcount' : fetchedCount'.toInt = (head.rows ++ result.rows).length :=
        h.count (k + 1) _ (hreached.succ (.intro hfetch hmore hadd))
      rw [Int32.lt_iff_toInt_lt] at hgrows
      rw [List.length_append] at hcount'
      have hlen := length_of_fetches hfetch
      refine ⟨Int32.le_iff_toInt_le.mpr ?_, .inr fun hcols => ?_, by omega⟩
      · rw [Int32.toInt_zero]
        omega
      · rw [if_neg fun hread => hread.2 hcols] at hlen
        omega
  · rintro ⟨hrows, hcountable⟩
    have hinv := @count_of_reachedIn _ _ cursor totalCount client rows hrows hcountable
    refine ⟨fun k head hreached => (hinv hreached).1, ?_, ?_, ?_, ?_⟩
    · intro k head hreached hlt
      have htotal := totalCount.toInt_lt
      have hcount := (hinv hreached).1
      have hone : (1 : Int32).toInt = 1 := rfl
      rw [Int32.lt_iff_toInt_lt] at hlt
      exact ⟨_, (checkedAdd_eq_ok (by omega) (by omega)).1⟩
    · intro k head result client' hreached hfetch hmore
      obtain ⟨fetchedCount', hadd, hgrows, -⟩ :=
        (hcountable k head result client' hreached hfetch).add (hinv hreached).1 hfetch hmore
      exact ⟨fetchedCount', hadd, hgrows⟩
    · intro k head hreached hlt
      obtain ⟨hcount, hle⟩ := hinv hreached
      rw [Int32.lt_iff_toInt_lt, hcount] at hlt
      omega
    · intro fuel hfuel
      exact loop_ends hrows hcountable .zero hfuel

end Run

/-! ### A server that counts backwards -/

namespace Backwards

/-- The response to a fetch: the code, and the number `-1`. -/
def frame : List UInt8 :=
  writeInt 8 ++ ([1, 2, 3, 4] ++ (writeInt 0 ++ writeInt (-1)))

/-- A client to which this response is on its way. -/
def client : Client ByteStream := Client.connected ⟨frame⟩

/-- The handle of a query with one column. -/
def cursor : Cursor where
  handle := 1
  columns := TwoRows.columns
  stmtType := .select
  owned := true

theorem fetch_client : ∃ client', cursor.fetch 0 client = some (.ok ⟨-1, []⟩, client') := ⟨_, rfl⟩

end Backwards

open Backwards in
/-- The counter goes down to `-1`, and there are no rows. -/
theorem not_keepsCount_backwards : ¬KeepsCount cursor 1 client [] := by
  intro h
  obtain ⟨client', hfetch⟩ := fetch_client
  obtain ⟨fetchedCount', hadd, hgrows⟩ :=
    h.advance 0 _ ⟨-1, []⟩ client' .zero ⟨by decide, hfetch⟩ (by decide)
  obtain rfl : -1 = fetchedCount' := Outcome.ok.inj hadd
  exact absurd hgrows (by decide)

end CubridDriver
