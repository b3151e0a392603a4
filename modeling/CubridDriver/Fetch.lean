import CubridDriver.RoundTrip
import CubridDriver.Wire

/-!
# Every row, once, in order

A server holds a table and answers a query with any number of its rows, and each request
for more with any run of rows that starts where the request says. Whatever runs it
chooses, the client ends up with the table: `CubridDriver.query_rows`.

What carries the proof is the invariant of the fetch loop, that the rows so far are the
first ones of the table and that the cursor is their number. The round trips of the
responses turn a frame of the server into the rows it stands for.
-/

namespace CubridDriver

open Prog Connection PacketWriter

/-! ### The server -/

/-- An argument of four bytes, behind its length. -/
def intArgument (v : Int32) : List UInt8 := writeInt 4 ++ writeInt v

/-- A request to fetch at most `size` rows of a handle, from the row `start` on; rows are
counted from one. -/
def IsFetch (request : List UInt8) (handle start size : Int32) : Prop :=
  ∃ header options, header.length = 8 ∧ request = header ++ (FunctionCode.fetch.toU8 ::
    (intArgument handle ++ (intArgument start ++ (intArgument size ++ options))))

/-- A run of rows of the table, not empty and at most `size` long, that starts with the row
`start`. -/
def IsBatch (table : List Row) (start size : ℕ) (batch : List Row) : Prop :=
  batch ≠ [] ∧ batch.length ≤ size ∧ batch <+: table.drop (start - 1)

/-- A network that does not fail, with a server that holds the table as the result of a query
and sends its first `k` rows along with the first response. How long the other runs are,
and what it answers to other requests, is up to the server. -/
structure Serves (network : Network) (protoVersion handle : Int32) (columns : Columns)
    (table : List Row) (k : ℕ) : Prop where
  /-- No socket call fails. -/
  prompt : ∀ clock, network.fate clock = .done
  /-- The response to `PrepareAndExecute`. -/
  prepareAndExecute : ∀ number request,
    functionByte request = some FunctionCode.prepareAndExecute.toU8 →
    ∃ frame casInfo r, network.answer number request = some frame ∧
      frame.data ∈ prepareAndExecuteFormat protoVersion casInfo r ∧
      r.queryHandle = handle ∧ r.statementType = .select ∧ r.columns = columns ∧
      r.totalTupleCount = Int32.ofNat table.length ∧ r.rows = table.take k
  /-- The response to `Execute`. -/
  execute : ∀ number request, functionByte request = some FunctionCode.execute.toU8 →
    ∃ frame casInfo r, network.answer number request = some frame ∧
      frame.data ∈ executeFormat protoVersion casInfo columns .select r ∧
      r.totalTupleCount = Int32.ofNat table.length ∧ r.rows = table.take k
  /-- The response to `Fetch`. -/
  fetch : ∀ number request start size, IsFetch request handle start size →
    1 ≤ start.toInt → start.toInt ≤ table.length → 0 < size.toInt →
    ∃ frame casInfo batch, network.answer number request = some frame ∧
      frame.data ∈ fetchFormat casInfo columns .select batch ∧
      IsBatch table start.toInt.toNat size.toInt.toNat batch

/-- The number of `Fetch` requests that have been sent. -/
def fetches (trace : List Event) : ℕ :=
  (requests trace).countP fun request => functionByte request = some FunctionCode.fetch.toU8

/-! ### An exchange that does not fail -/

/-- Nothing is to arrive on the wire, which is part of the network. -/
def Idle (network : Network) (conn : Connection Wire) : Prop :=
  conn.stream.network = network ∧ conn.stream.inbox = []

section Prompt

variable {network : Network} {conn : Connection Wire}

theorem sendFramed_prompt (hfate : ∀ clock, conn.stream.network.fate clock = .done)
    (data : List UInt8) :
    sendFramed data conn = some (.ok (), { conn with stream := conn.stream.deliver data }) := by
  have hwrite : Socket.writeAll data conn.stream = (.ok (), conn.stream.deliver data) := by
    change Wire.writeAll data conn.stream = _
    rw [Wire.writeAll, hfate]
  rw [sendFramed, hwrite]
  rfl

theorem readExactBytes_prompt (hfate : ∀ clock, conn.stream.network.fate clock = .done)
    {count : ℕ} (h : count ≤ conn.stream.inbox.length) :
    readExactBytes count conn =
      some (.ok ⟨(conn.stream.inbox.take count).map Prod.snd, Wire.length_taken h⟩,
        { conn with stream := conn.stream.take count }) := by
  have hread : Socket.readExact count conn.stream =
      (.ok ⟨(conn.stream.inbox.take count).map Prod.snd, Wire.length_taken h⟩,
        conn.stream.take count) := by
    change Wire.readExact count conn.stream = _
    rw [Wire.readExact, hfate]
    exact dif_pos h
  rw [readExactBytes, hread]
  rfl

/-- A frame that is there is received. -/
theorem recvFramed_prompt (hfate : ∀ clock, conn.stream.network.fate clock = .done)
    {frame : Frame} (h : conn.stream.inbox.map Prod.snd = frame.bytes) :
    ∃ resp : Bytes, resp.1 = frame.data ∧ recvFramed conn =
      some (.ok resp,
        { conn with stream := (conn.stream.take 4).take conn.stream.frameLength }) := by
  obtain ⟨hlen, hframe, hdata⟩ := Wire.frameLength_of_frame h
  have hbody : conn.stream.frameLength ≤ (conn.stream.take 4).inbox.length :=
    Nat.le_of_eq hframe
  have hall : ((conn.stream.take 4).inbox.take conn.stream.frameLength).map Prod.snd =
      frame.data := by
    have hinbox : (conn.stream.take 4).inbox = conn.stream.inbox.drop 4 := rfl
    rw [hinbox, List.take_of_length_le (Nat.le_of_eq hframe.symm), hdata]
  refine ⟨⟨_, ?_⟩, hall, ?_⟩
  · rw [Wire.length_taken hbody]
    exact @length_frame_le ⟨_, Wire.length_taken hlen⟩
  · rw [recvFramed, bind_ok (readExactBytes_prompt hfate hlen)]
    exact bind_ok (@readExactBytes_prompt { conn with stream := conn.stream.take 4 } hfate _ hbody)

/-- **An exchange that does not fail** returns what the frame of the server is parsed to. -/
theorem exchange_prompt {α : Type} {request : CasInfo → Outcome Error (List UInt8)}
    {parse : Bytes → Outcome ProtocolError (α × CasInfo)} {data : List UInt8} {frame : Frame}
    {result : α} {casInfo : CasInfo} (hidle : Idle network conn)
    (hfate : ∀ clock, network.fate clock = .done) (hrequest : request conn.casInfo = .ok data)
    (hanswer : network.answer (conn.stream.number + 1) data = some frame)
    (hparse : ∀ resp : Bytes, resp.1 = frame.data → parse resp = .ok (result, casInfo)) :
    ∃ conn', exchange request parse conn = some (.ok result, conn') ∧ Idle network conn' ∧
      requests conn'.stream.trace = requests conn.stream.trace ++ [data] := by
  obtain ⟨rfl, hinbox⟩ := hidle
  -- nothing was outstanding, so the answer is all there is to read
  have hframe : (conn.stream.deliver data).inbox.map Prod.snd = frame.bytes := by
    rw [Wire.deliver, hinbox, List.nil_append, Wire.map_answerTo hanswer]
  obtain ⟨resp, hresp, hrecv⟩ :=
    @recvFramed_prompt { conn with stream := conn.stream.deliver data } hfate frame hframe
  have hlift : (Prog.lift ((parse resp).mapErr .protocol) : Prog (Connection Wire) Error _) =
      Prog.lift (.ok (result, casInfo)) := by rw [hparse resp hresp]; rfl
  refine ⟨⟨((conn.stream.deliver data).take 4).take (conn.stream.deliver data).frameLength,
    casInfo⟩, ?_, ⟨rfl, ?_⟩, ?_⟩
  · rw [exchange, bind_ok (t := conn) (a := conn) rfl, hrequest,
      bind_ok (t := conn) (a := data) rfl, bind_ok (sendFramed_prompt hfate data), bind_ok hrecv,
      hlift]
    rfl
  -- the frame is read to its end
  · obtain ⟨hlen, -, -⟩ := Wire.frameLength_of_frame hframe
    exact Wire.inbox_take_frame (Or.inr ⟨frame, hframe⟩) hlen
  · rw [Wire.requests_take, Wire.requests_take, Wire.requests_deliver]

/-- Reading ends, and sends nothing. -/
theorem readExactBytes_ends (count : ℕ) {sent : List (List UInt8)}
    (h : requests conn.stream.trace = sent) :
    Ends (readExactBytes count) conn fun conn' => requests conn'.stream.trace = sent := by
  have hstep : readExactBytes count conn = some (ofIo (Wire.readExact count conn.stream).1,
      { conn with stream := (Wire.readExact count conn.stream).2 }) := rfl
  refine ⟨_, _, hstep, ?_, ?_⟩ <;>
    rcases Wire.readExact_cases count conn.stream with ⟨hlen, hread⟩ | ⟨e, k, hread⟩ <;> rw [hread]
  · nofun
  · nofun
  · exact (Wire.requests_take _ _).trans h
  · exact (Wire.requests_fail _ _).trans h

theorem recvFramed_ends {sent : List (List UInt8)} (h : requests conn.stream.trace = sent) :
    Ends recvFramed conn fun conn' => requests conn'.stream.trace = sent := by
  refine (readExactBytes_ends 4 h).bind fun lenBuf conn₁ h₁ => ?_
  exact (readExactBytes_ends _ h₁).bind fun data conn₂ h₂ => Ends.ret _ h₂

/-- **The closing of a query handle** sends one request, and whatever comes back ends it. -/
theorem closeQueryHandle_prompt {client : Client Wire} (hconn : client.conn = some conn)
    (hfate : ∀ clock, conn.stream.network.fate clock = .done) (handle : Int32) :
    ∃ conn', Client.closeQueryHandle handle client =
        some (.ok (), { client with conn := some conn' }) ∧
      requests conn'.stream.trace =
        requests conn.stream.trace ++ [writeCloseReqHandle handle conn.casInfo] := by
  suffices h : ∃ client', Client.closeQueryHandle handle client = some (.ok (), client') ∧
      ∃ conn', client' = { client with conn := some conn' } ∧ requests conn'.stream.trace =
        requests conn.stream.trace ++ [writeCloseReqHandle handle conn.casInfo] by
    obtain ⟨_, hclose, conn', rfl, hsent⟩ := h
    exact ⟨conn', hclose, hsent⟩
  refine Ends.ignoreErr (ends_onConn_some hconn ?_)
  rw [Ends, bind_ok (t := conn) (a := conn) rfl, bind_ok (sendFramed_prompt hfate _)]
  -- whatever comes back, and whether or not it parses, nothing else is sent
  refine (recvFramed_ends (Wire.requests_deliver _ _)).bind fun resp conn₁ h₁ => ?_
  refine Ends.bind ⟨_, _, rfl, ?_, h₁⟩ fun _ conn₂ h₂ => Ends.ret () h₂
  exact mt Outcome.mapErr_eq_panic.mp (parseSimpleResponse_ne_panic resp)

end Prompt

/-! ### The fetch loop -/

section Loop

variable {network : Network} {protoVersion handle : Int32} {columns : Columns} {table : List Row}
  {k : ℕ}

/-- A fetch request says where to start: behind the rows that are there already. -/
theorem isFetch_writeFetch {fetched : ℕ} (hfetched : fetched + 1 < 2 ^ 31) (size : Int32)
    (casInfo : CasInfo) : ∃ request,
      (writeFetch handle (Int32.ofNat fetched) size casInfo : Outcome Error (List UInt8)) =
        .ok request ∧
      IsFetch request handle (Int32.ofNat (fetched + 1)) size ∧
      functionByte request = some FunctionCode.fetch.toU8 := by
  have hint := toInt_ofNat (Nat.lt_of_succ_lt hfetched)
  have hone : (1 : Int32).toInt = 1 := rfl
  obtain ⟨hadd, -⟩ := @checkedAdd_eq_ok Error (Int32.ofNat fetched) 1 (by omega) (by omega)
  -- rows are counted from one, so the next one has the number `fetched + 1`
  have hsum : Int32.ofNat fetched + 1 = Int32.ofNat (fetched + 1) := (Int32.ofNat_add _ _).symm
  refine ⟨framed .fetch (addInt handle ++ addInt (Int32.ofNat (fetched + 1)) ++ addInt size ++
    addByte 0 ++ addInt 0) casInfo, ?_, ?_, functionByte_framed _ _ _⟩
  · rw [writeFetch, hadd, hsum]
    rfl
  · obtain ⟨header, hlen, hframed⟩ := framed_eq .fetch (addInt handle ++
      addInt (Int32.ofNat (fetched + 1)) ++ addInt size ++ addByte 0 ++ addInt 0) casInfo
    refine ⟨header, addByte 0 ++ addInt 0, hlen, ?_⟩
    rw [hframed]
    simp only [List.append_assoc]
    rfl

/-- The client is connected to the network, and nothing is to arrive. -/
def Ready (network : Network) (client : Client Wire) : Prop :=
  ∃ conn, client.conn = some conn ∧ Idle network conn

/-- What a client has sent. -/
def sent (client : Client Wire) : List Event :=
  match client.conn with
  | some conn => conn.stream.trace
  | none => []

/-- **One round of the loop** gets a batch that starts where the rows end. -/
theorem fetch_round (hserves : Serves network protoVersion handle columns table k)
    (hcols : columns.1 ≠ []) (htable : table.length < 2 ^ 31) {client : Client Wire}
    (hready : Ready network client) {fetched : ℕ} (hfetched : fetched < table.length) :
    ∃ batch client', Client.onConn (exchange
        (writeFetch handle (Int32.ofNat fetched) DEFAULT_FETCH_SIZE)
        fun resp => parseFetch resp columns .select) client =
          some (.ok { tupleCount := Int32.ofNat batch.length, rows := batch }, client') ∧
      Ready network client' ∧ fetches (sent client') = fetches (sent client) + 1 ∧
      batch ≠ [] ∧ batch <+: table.drop fetched := by
  obtain ⟨conn, hconn, hidle⟩ := hready
  obtain ⟨request, hrequest, hisFetch, hcode⟩ :=
    @isFetch_writeFetch handle fetched (by omega) DEFAULT_FETCH_SIZE conn.casInfo
  have hstart := toInt_ofNat (n := fetched + 1) (by omega)
  obtain ⟨frame, casInfo, batch, hanswer, hframe, hne, -, hprefix⟩ :=
    hserves.fetch (conn.stream.number + 1) request _ _ hisFetch (by omega) (by omega) (by decide)
  have hparse : ∀ resp : Bytes, resp.1 = frame.data → parseFetch resp columns .select =
      .ok ({ tupleCount := Int32.ofNat batch.length, rows := batch }, casInfo) :=
    fun resp hresp => parseFetch_format hcols (hresp ▸ hframe)
  obtain ⟨conn', hexchange, hidle', hrequests⟩ :=
    exchange_prompt hidle hserves.prompt hrequest hanswer hparse
  refine ⟨batch, _, onConn_eq_some hconn hexchange, ⟨conn', rfl, hidle'⟩, ?_, hne, ?_⟩
  · rw [sent, sent, hconn]
    change (requests conn'.stream.trace).countP _ = _
    rw [hrequests, List.countP_append]
    simp [fetches, hcode]
  · rw [hstart] at hprefix
    simpa using hprefix

/-- **The invariant of the fetch loop**: with the first rows of the table and their number it
ends, given as much fuel as there are rows to come, and returns the table, after at most
one request for each of these rows. -/
theorem fetchLoop_serves (hserves : Serves network protoVersion handle columns table k)
    (hcols : columns.1 ≠ []) (htable : table.length < 2 ^ 31) {fuel : ℕ} :
    ∀ {client : Client Wire}, Ready network client → ∀ {fetched : ℕ}, fetched ≤ table.length →
      table.length - fetched < fuel →
      ∃ client', Client.fetchLoop handle columns .select (Int32.ofNat table.length) fuel
          (Int32.ofNat fetched) (table.take fetched) client = some (.ok table, client') ∧
        Ready network client' ∧
        fetches (sent client') ≤ fetches (sent client) + (table.length - fetched) := by
  induction fuel with
  | zero => exact fun _ _ _ hfuel => absurd hfuel (Nat.not_lt_zero _)
  | succ fuel ih =>
    intro client hready fetched hle hfuel
    have hlt : Int32.ofNat fetched < Int32.ofNat table.length ↔ fetched < table.length := by
      rw [Int32.lt_iff_toInt_lt, toInt_ofNat (by omega), toInt_ofNat htable]
      omega
    rw [Client.fetchLoop]
    -- the loop ends when the cursor is at the end of the table, and a batch is never empty
    by_cases hmore : fetched < table.length
    · rw [if_pos (hlt.mpr hmore)]
      obtain ⟨batch, client₁, hround, hready₁, hcount, hne, rest, hrest⟩ :=
        fetch_round hserves hcols htable hready hmore
      have hlen := congrArg List.length hrest
      rw [List.length_append, List.length_drop] at hlen
      have hpos := List.length_pos_iff.mpr hne
      have htake : table.take fetched ++ batch = table.take (fetched + batch.length) := by
        rw [List.take_add, ← hrest, List.take_left]
      have hnonzero : ¬Int32.ofNat batch.length = 0 := by
        intro hzero
        have hint := congrArg Int32.toInt hzero
        rw [toInt_ofNat (by omega), Int32.toInt_zero] at hint
        omega
      have hint := toInt_ofNat (n := fetched) (by omega)
      have hint' := toInt_ofNat (n := batch.length) (by omega)
      obtain ⟨hadd, -⟩ := @checkedAdd_eq_ok Error (Int32.ofNat fetched) (Int32.ofNat batch.length)
        (by omega) (by omega)
      obtain ⟨client₂, hloop, hready₂, hcount₂⟩ :=
        @ih client₁ hready₁ (fetched + batch.length) (by omega) (by omega)
      refine ⟨client₂, ?_, hready₂, by omega⟩
      rw [bind_ok hround, if_neg hnonzero, hadd, ← Int32.ofNat_add, htake]
      exact hloop
    · obtain rfl : fetched = table.length := by omega
      rw [if_neg (mt hlt.mp hmore), List.take_length]
      exact ⟨client, rfl, hready, by omega⟩

theorem fetchIfNeeded_serves (hserves : Serves network protoVersion handle columns table k)
    (hcols : columns.1 ≠ []) (htable : table.length < 2 ^ 31) (hk : k ≤ table.length)
    {client : Client Wire} (hready : Ready network client) {fuel : ℕ}
    (hfuel : table.length - k < fuel) :
    ∃ client', Client.fetchIfNeeded fuel handle columns .select (Int32.ofNat table.length)
        (table.take k) client = some (.ok table, client') ∧ Ready network client' ∧
      fetches (sent client') ≤ fetches (sent client) + (table.length - k) := by
  have hlen : (table.take k).length = k := by
    rw [List.length_take, Nat.min_eq_left hk]
  rw [Client.fetchIfNeeded, Client.fetchRemaining, hlen]
  split <;> rename_i hcond
  · exact fetchLoop_serves hserves hcols htable hready hk hfuel
  -- no fetch is needed: the first response held the whole table
  · have hge : table.length ≤ k := by
      by_contra hlt
      refine hcond ⟨rfl, ?_⟩
      rw [Int32.lt_iff_toInt_lt, toInt_ofNat (by omega), toInt_ofNat htable]
      omega
    rw [List.take_of_length_le hge]
    exact ⟨client, rfl, hready, by omega⟩

end Loop

/-! ### Queries -/

section Query

variable {network : Network} {protoVersion handle : Int32} {columns : Columns} {table : List Row}
  {k : ℕ} {client : Client Wire}

/-- An exchange other than a fetch, with a server that answers it. -/
theorem exchange_ready {α : Type} {code : FunctionCode} {arguments : List UInt8}
    {parse : Bytes → Outcome ProtocolError (α × CasInfo)} {C : α → Prop}
    (hready : Ready network client) (hfate : ∀ clock, network.fate clock = .done)
    (hcode : code ≠ .fetch)
    (hanswer : ∀ number request, functionByte request = some code.toU8 →
      ∃ frame casInfo result, network.answer number request = some frame ∧
        (∀ resp : Bytes, resp.1 = frame.data → parse resp = .ok (result, casInfo)) ∧ C result) :
    ∃ result client', Client.onConn (exchange (fun casInfo => .ok (framed code arguments casInfo))
        parse) client = some (.ok result, client') ∧ Ready network client' ∧
      fetches (sent client') = fetches (sent client) ∧ C result := by
  obtain ⟨conn, hconn, hidle⟩ := hready
  obtain ⟨frame, casInfo, result, hframe, hparse, hC⟩ :=
    hanswer (conn.stream.number + 1) _ (functionByte_framed code arguments conn.casInfo)
  obtain ⟨conn', hexchange, hidle', hrequests⟩ :=
    @exchange_prompt _ _ _ (fun casInfo => .ok (framed code arguments casInfo)) _ _ _ _ _ hidle
      hfate rfl hframe hparse
  refine ⟨result, _, onConn_eq_some hconn hexchange, ⟨conn', rfl, hidle'⟩, ?_, hC⟩
  rw [sent, sent, hconn]
  change (requests conn'.stream.trace).countP _ = _
  rw [hrequests, List.countP_append]
  have hne : code.toU8 ≠ FunctionCode.fetch.toU8 := mt FunctionCode.toU8_inj.mp hcode
  simp [fetches, hne]

/-- Releasing the handle sends no fetch. -/
theorem releaseHandle_ready (hready : Ready network client)
    (hfate : ∀ clock, network.fate clock = .done) (handle : Int32) :
    ∃ client', Client.releaseHandle handle client = some (.ok (), client') ∧
      fetches (sent client') = fetches (sent client) := by
  rw [Client.releaseHandle]
  split
  · obtain ⟨conn, hconn, rfl, -⟩ := hready
    obtain ⟨conn', hclose, hrequests⟩ := closeQueryHandle_prompt hconn hfate handle
    refine ⟨_, hclose, ?_⟩
    rw [sent, sent, hconn]
    change (requests conn'.stream.trace).countP _ = _
    rw [hrequests, List.countP_append, writeCloseReqHandle]
    have hne : FunctionCode.closeReqHandle.toU8 ≠ FunctionCode.fetch.toU8 := by decide
    simp [fetches, hne]
  · exact ⟨client, rfl, rfl⟩

theorem prepareAndExecute_serves (hserves : Serves network protoVersion handle columns table k)
    (hready : Ready network client) (hproto : client.protoVersion = protoVersion) (sql : String)
    (params : List Value) :
    ∃ r client', Client.prepareAndExecute sql params client = some (.ok r, client') ∧
      Ready network client' ∧ fetches (sent client') = fetches (sent client) ∧
      r.queryHandle = handle ∧ r.statementType = .select ∧ r.columns = columns ∧
      r.totalTupleCount = Int32.ofNat table.length ∧ r.rows = table.take k := by
  rw [Client.prepareAndExecute, bind_ok (t := client) (a := client) rfl]
  refine exchange_ready hready hserves.prompt nofun fun number request hrequest => ?_
  obtain ⟨frame, casInfo, r, hanswer, hframe, hr⟩ :=
    hserves.prepareAndExecute number request hrequest
  refine ⟨frame, casInfo, r, hanswer, fun resp hresp => ?_, hr⟩
  exact parsePrepareAndExecute_format (by rw [hresp, hproto]; exact hframe)

theorem executeHandle_serves (hserves : Serves network protoVersion handle columns table k)
    (hcols : columns.1 ≠ []) (hready : Ready network client)
    (hproto : client.protoVersion = protoVersion) {stmt : Statement}
    (hselect : stmt.statementType = .select) (hcolumns : stmt.columns = columns) :
    ∃ r client', stmt.executeHandle client = some (.ok r, client') ∧ Ready network client' ∧
      fetches (sent client') = fetches (sent client) ∧
      r.totalTupleCount = Int32.ofNat table.length ∧ r.rows = table.take k := by
  rw [Statement.executeHandle, bind_ok (t := client) (a := client) rfl]
  refine exchange_ready hready hserves.prompt nofun fun number request hrequest => ?_
  obtain ⟨frame, casInfo, r, hanswer, hframe, hr⟩ := hserves.execute number request hrequest
  refine ⟨frame, casInfo, r, hanswer, fun resp hresp => ?_, hr⟩
  rw [hselect, hcolumns]
  exact parseExecute_format hcols (by rw [hresp, hproto]; exact hframe)

/-- **A query returns the table**, every row once and in order: however the server cuts it
into runs, both for a query by its text and for a prepared statement without parameters, and
with at most one fetch for each row that did not come with the first response. -/
theorem query_rows (hserves : Serves network protoVersion handle columns table k)
    (hcols : columns.1 ≠ []) (htable : table.length < 2 ^ 31) (hk : k ≤ table.length)
    (hready : Ready network client) (hproto : client.protoVersion = protoVersion) {fuel : ℕ}
    (hfuel : table.length - k < fuel) :
    (∀ (sql : String) (params : List Value), ∃ client', Client.query fuel sql params client =
        some (.ok ⟨columns, table, Int32.ofNat table.length⟩, client') ∧
      fetches (sent client') ≤ fetches (sent client) + (table.length - k)) ∧
    ∀ stmt : Statement, stmt.closed = false → stmt.queryHandle = handle →
      stmt.statementType = .select → stmt.columns = columns →
      ∃ client', stmt.queryWith fuel [] client =
          some (.ok ⟨columns, table, Int32.ofNat table.length⟩, client') ∧
        fetches (sent client') ≤ fetches (sent client) + (table.length - k) := by
  constructor
  · intro sql params
    obtain ⟨r, client₁, hfirst, hready₁, hcount₁, rfl, hselect, rfl, htotal, hrows⟩ :=
      prepareAndExecute_serves hserves hready hproto sql params
    obtain ⟨client₂, hfetch, hready₂, hcount₂⟩ :=
      fetchIfNeeded_serves hserves hcols htable hk hready₁ hfuel
    obtain ⟨client₃, hrelease, hcount₃⟩ :=
      releaseHandle_ready hready₂ hserves.prompt r.queryHandle
    refine ⟨client₃, ?_, by omega⟩
    rw [Client.query, bind_ok hfirst, hselect, htotal, hrows, bind_ok hfetch, bind_ok hrelease]
    rfl
  · rintro stmt hclosed rfl hselect rfl
    obtain ⟨r, client₁, hfirst, hready₁, hcount₁, htotal, hrows⟩ :=
      executeHandle_serves hserves hcols hready hproto hselect rfl
    obtain ⟨client₂, hfetch, -, hcount₂⟩ :=
      fetchIfNeeded_serves hserves hcols htable hk hready₁ hfuel
    refine ⟨client₂, ?_, by omega⟩
    rw [Statement.queryWith, hclosed, if_neg nofun, if_neg (not_not.mpr rfl), bind_ok hfirst,
      hselect, htotal, hrows, bind_ok hfetch]
    rfl

end Query

/-! ### A server with two rows

It sends the first row along with the first response, and the rows one by one after that. -/

namespace TwoRows

/-- An integer column. -/
def column : ColumnMetaData where
  columnType := .int
  scale := 0
  precision := 10
  name := ""
  realName := ""
  tableName := ""
  isNullable := true
  defaultValue := ""
  isAutoIncrement := false
  isUniqueKey := false
  isPrimaryKey := false
  isForeignKey := false

/-- The columns of the table. -/
def columns : Columns := ⟨[column], by decide⟩

/-- The table. -/
def table : List Row := [[.int 7], [.int 8]]

/-- The description of the column. -/
def columnWord : List UInt8 :=
  [8] ++ (writeShort 0 ++ (writeInt 10 ++ (writeInt 0 ++ (writeInt 0 ++ (writeInt 0 ++ ([1] ++
  (writeInt 0 ++ ([0] ++ ([0] ++ ([0] ++ ([0] ++ ([0] ++ ([0] ++ [0])))))))))))))

/-- A row. -/
def rowWord (v : Int32) : List UInt8 :=
  writeInt 1 ++ (List.replicate SIZE_OID 0 ++ (writeInt 4 ++ writeInt v))

/-- What follows the number of result infos, of which there are none: the first row. -/
def inlineWord : List UInt8 :=
  writeInt 0 ++ ([] ++ (([] ++ []) ++ (writeInt 0 ++ (writeInt 1 ++ rowWord 7))))

/-- The frame of a response, by its code and what follows it. -/
def frame (code : Int32) (word : List UInt8) (h : (writeInt code ++ word).length < 2 ^ 32) :
    Frame := ⟨(1, 2, 3, 4), writeInt code ++ word, h⟩

/-- The first response to a query. -/
def prepareAndExecuteWord : List UInt8 :=
  writeInt 0 ++ ([21] ++ (writeInt 0 ++ ([0] ++ (writeInt 1 ++ (columnWord ++ (writeInt 2 ++
  ([0] ++ inlineWord)))))))

/-- The server. The last byte of the start of a fetch stands at 24. -/
def network : Network where
  fate _ := .done
  answer _ request :=
    if functionByte request = some FunctionCode.prepareAndExecute.toU8 then
      some (frame 1 prepareAndExecuteWord (by decide))
    else if functionByte request = some FunctionCode.execute.toU8 then
      some (frame 2 ([0] ++ inlineWord) (by decide))
    else if request[24]? = some 1 then some (frame 0 (writeInt 1 ++ rowWord 7) (by decide))
    else some (frame 0 (writeInt 1 ++ rowWord 8) (by decide))

theorem columnWord_mem : columnWord ∈ columnFormat column := by
  have hnul : NoTrailingNul "" := by
    rw [NoTrailingNul]
    decide
  have htext : writeInt 0 ∈ lengthStringFormat "" := ⟨[], ⟨hnul, 0, rfl⟩, by decide, rfl⟩
  have hflag (b : UInt8) : [b] ∈ flagFormat (decide (b = 1)) := ⟨b, rfl, rfl⟩
  refine Language.append_mem_mul (Or.inl rfl) (Language.append_mem_mul rfl ?_)
  refine Language.append_mem_mul rfl (Language.append_mem_mul htext ?_)
  refine Language.append_mem_mul htext (Language.append_mem_mul htext ?_)
  refine Language.append_mem_mul (hflag 1) (Language.append_mem_mul htext ?_)
  refine Language.append_mem_mul (hflag 0) (Language.append_mem_mul (hflag 0) ?_)
  refine Language.append_mem_mul (hflag 0) (Language.append_mem_mul rfl ?_)
  exact Language.append_mem_mul rfl (Language.append_mem_mul (hflag 0) rfl)

theorem rowWord_mem (v : Int32) : rowWord v ∈ rowsFormat columns .select [[.int v]] := by
  have hcell : writeInt 4 ++ writeInt v ∈ cellFormat false column (.int v) :=
    Or.inr ⟨writeInt v, rfl, nofun, (length_writeInt v).trans_lt (by decide), rfl⟩
  have hlen : [Value.int v].length = columns.1.length := rfl
  rw [rowsFormat, List.map_singleton, List.prod_singleton, rowFormat, if_pos hlen]
  refine Language.append_mem_mul rfl (Language.append_mem_mul rfl ?_)
  change _ ∈ [cellFormat false column (.int v)].prod
  rwa [List.prod_singleton]

theorem frame_mem {code : Int32} {word : List UInt8} {F : Language UInt8}
    {h : (writeInt code ++ word).length < 2 ^ 32} (hcode : 0 ≤ code) (hword : word ∈ F) :
    (frame code word h).data ∈ headFormat (1, 2, 3, 4) code * F := by
  have hhead : CasInfo.toList (1, 2, 3, 4) ++ writeInt code ∈ headFormat (1, 2, 3, 4) code :=
    ⟨hcode, rfl⟩
  rw [frame, Frame.data, ← List.append_assoc]
  exact Language.append_mem_mul hhead hword

theorem inlineWord_mem : inlineWord ∈ countFormat 0 * (([] : List (Language UInt8)).prod *
    (versionFormat 0 * inlineFormat columns .select 1 [[.int 7]])) := by
  refine Language.append_mem_mul ⟨by decide, rfl⟩ (Language.append_mem_mul rfl ?_)
  refine Language.append_mem_mul (Language.append_mem_mul rfl rfl) ⟨rfl, Or.inr ⟨rfl, ?_⟩⟩
  exact Language.append_mem_mul rfl (Language.append_mem_mul ⟨by decide, rfl⟩ (rowWord_mem 7))

/-- The first response to a query, as it is to be read. -/
def result : PrepareAndExecuteResult where
  queryHandle := 1
  statementType := .select
  bindCount := 0
  columns := columns
  totalTupleCount := 2
  resultInfos := []
  tupleCount := 1
  rows := [[.int 7]]

theorem prepareAndExecuteWord_mem :
    (frame 1 prepareAndExecuteWord (by decide)).data ∈
      prepareAndExecuteFormat 0 (1, 2, 3, 4) result := by
  refine frame_mem (by decide) (Language.append_mem_mul rfl ?_)
  refine Language.append_mem_mul ⟨21, rfl, rfl⟩ (Language.append_mem_mul rfl ?_)
  refine Language.append_mem_mul rfl (Language.append_mem_mul ⟨by decide, rfl⟩ ?_)
  refine Language.append_mem_mul ?_ (Language.append_mem_mul rfl ?_)
  · change _ ∈ [columnFormat column].prod
    rw [List.prod_singleton]
    exact columnWord_mem
  · exact Language.append_mem_mul rfl inlineWord_mem

/-- A fetch is answered with the row it starts with. -/
theorem answer_fetch {start size : Int32} (hlow : 1 ≤ start.toInt) (hhigh : start.toInt ≤ 2)
    (hsize : 0 < size.toInt) (number : ℕ) {request : List UInt8}
    (h : IsFetch request 1 start size) :
    ∃ v h, network.answer number request = some (frame 0 (writeInt 1 ++ rowWord v) h) ∧
      IsBatch table start.toInt.toNat size.toInt.toNat [[.int v]] := by
  obtain ⟨header, options, hlen, rfl⟩ := h
  -- the header is skipped: what is looked up stands behind it
  have hskip (i : ℕ) (word : List UInt8) : (header ++ word)[i + 8]? = word[i]? := by
    rw [List.getElem?_append_right (by omega), hlen, Nat.add_sub_cancel]
  have hcode (word : List UInt8) : functionByte (header ++ word) = word[0]? := hskip 0 word
  obtain rfl | rfl : start = 1 ∨ start = 2 := by
    rw [← Int32.toInt_inj, ← Int32.toInt_inj]
    have hone : (1 : Int32).toInt = 1 := rfl
    have htwo : (2 : Int32).toInt = 2 := rfl
    omega
  · refine ⟨7, by decide, ?_, nofun, ?_, ⟨[[.int 8]], rfl⟩⟩
    · rw [network]
      simp only [hcode, hskip 16]
      rfl
    · change 1 ≤ _
      omega
  · refine ⟨8, by decide, ?_, nofun, ?_, ⟨[], rfl⟩⟩
    · rw [network]
      simp only [hcode, hskip 16]
      rfl
    · change 1 ≤ _
      omega

theorem serves : Serves network 0 1 columns table 1 where
  prompt _ := rfl
  prepareAndExecute number request h := by
    refine ⟨_, _, result, ?_, prepareAndExecuteWord_mem, rfl, rfl, rfl, rfl, rfl⟩
    exact if_pos h
  execute number request h := by
    have hne : ¬functionByte request = some FunctionCode.prepareAndExecute.toU8 := by
      rw [h]
      decide
    refine ⟨frame 2 ([0] ++ inlineWord) (by decide), (1, 2, 3, 4), ⟨2, [], 1, [[.int 7]]⟩, ?_,
      frame_mem (by decide) (Language.append_mem_mul rfl inlineWord_mem), rfl, rfl⟩
    exact (if_neg hne).trans (if_pos h)
  fetch number request start size h hlow hhigh hsize := by
    obtain ⟨v, hlen, hanswer, hbatch⟩ := answer_fetch hlow hhigh hsize number h
    refine ⟨_, _, [[.int v]], hanswer, ⟨0, frame_mem (by decide) ?_⟩, hbatch⟩
    exact Language.append_mem_mul ⟨(by decide : 1 < 2 ^ 31), rfl⟩ (rowWord_mem v)

/-- A client of the server. -/
def client : Client Wire := Client.connected (Wire.new network)

/-- A prepared statement of the server. -/
def statement : Statement where
  queryHandle := 1
  statementType := .select
  bindCount := 0
  columns := columns
  closed := false
  sql := "SELECT n FROM t"

end TwoRows

open TwoRows in
/-- Both ways to query the server return its two rows, after at most one fetch. -/
theorem query_rows_twoRows :
    (∃ client', Client.query 2 "SELECT n FROM t" [] client =
        some (.ok ⟨columns, table, 2⟩, client') ∧ fetches (sent client') ≤ 1) ∧
    ∃ client', statement.queryWith 2 [] client = some (.ok ⟨columns, table, 2⟩, client') ∧
      fetches (sent client') ≤ 1 := by
  have hready : Ready network client := ⟨_, rfl, rfl, rfl⟩
  obtain ⟨hquery, hqueryWith⟩ :=
    @query_rows _ _ _ _ _ _ _ serves nofun (by decide) (by decide) hready rfl 2 (by decide)
  exact ⟨hquery _ [], hqueryWith statement rfl rfl rfl rfl⟩

end CubridDriver
