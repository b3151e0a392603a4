import CubridDriver.Handles

/-!
# The handle of a call

`execute` and `query` are given a query handle in the first response, and they are to close
it before they return. They do so in the end, after the last fetch; an error on the way
there leaves the function, and the handle stays open. `CubridDriver.closes_iff` says which
calls close it: the ones whose responses are all accepted.
-/

namespace CubridDriver

open Prog Connection

/-! ### The turns of a call -/

section Call

variable {protoVersion : Int32} {r : PrepareAndExecuteResult}

/-- The first response is accepted, and returns `r`. -/
def Opens (protoVersion : Int32) (r : PrepareAndExecuteResult) (turn : Turn) : Prop :=
  functionByte turn.request = some FunctionCode.prepareAndExecute.toU8 ∧
    ∃ casInfo, parsePrepareAndExecute turn.frame.response protoVersion = .ok (r, casInfo)

/-- A fetch whose response is accepted. -/
def Fetches (r : PrepareAndExecuteResult) (turn : Turn) : Prop :=
  functionByte turn.request = some FunctionCode.fetch.toU8 ∧
    ∃ x, parseFetch turn.frame.response r.columns r.statementType = .ok x

/-- Every response of a call is accepted: the first one, and those to the fetches. -/
def AllAccepted (protoVersion : Int32) (first : Turn) (rest : List Turn) : Prop :=
  ∃ r casInfo, parsePrepareAndExecute first.frame.response protoVersion = .ok (r, casInfo) ∧
    ∀ turn ∈ rest, functionByte turn.request = some FunctionCode.fetch.toU8 →
      ∃ x, parseFetch turn.frame.response r.columns r.statementType = .ok x

/-- A call so far: the first response and any number of fetches have been accepted. -/
def Fetching (protoVersion : Int32) (r : PrepareAndExecuteResult) (first : Turn)
    (rest : List Turn) : Prop :=
  Opens protoVersion r first ∧ ∀ turn ∈ rest, Fetches r turn

/-- A call that returns a result: in the end the handle has been closed, if there was one. -/
def Returned (protoVersion : Int32) (first : Turn) (rest : List Turn) : Prop :=
  ∃ r, (¬r.queryHandle > 0 ∧ Fetching protoVersion r first rest) ∨
    ∃ fetches last casInfo, rest = fetches ++ [last] ∧ Fetching protoVersion r first fetches ∧
      last.request = writeCloseReqHandle r.queryHandle casInfo

/-- A call that returns an error: the last response is not accepted. -/
def Failed (protoVersion : Int32) (first : Turn) (rest : List Turn) : Prop :=
  (functionByte first.request = some FunctionCode.prepareAndExecute.toU8 ∧ rest = [] ∧
    ∃ e, parsePrepareAndExecute first.frame.response protoVersion = .err e) ∨
  ∃ r fetches last, rest = fetches ++ [last] ∧ Fetching protoVersion r first fetches ∧
    functionByte last.request = some FunctionCode.fetch.toU8 ∧
    ∃ e, parseFetch last.frame.response r.columns r.statementType = .err e

/-- A turn with another function code closes nothing. -/
theorem not_closes_of_functionByte {turn : Turn} {code : FunctionCode} {handle : Int32}
    (h : functionByte turn.request = some code.toU8) (hcode : code ≠ .closeReqHandle) :
    ¬turn.Closes handle := fun hcloses =>
  hcode (FunctionCode.toU8_inj.mp (Option.some.inj (h.symm.trans hcloses.1)))

/-- The handle is the response code. -/
theorem Opens.queryHandle_eq {turn : Turn} (h : Opens protoVersion r turn) {handle : Int32}
    (hcode : responseCode turn.frame.data = some handle) : r.queryHandle = handle := by
  obtain ⟨-, casInfo, hparse⟩ := h
  exact Option.some.inj ((heads_parsePrepareAndExecute hparse).code_eq.symm.trans hcode)

/-- Up to the end of the fetches nothing has been closed. -/
theorem Fetching.countP_closes {first : Turn} {rest : List Turn}
    (h : Fetching protoVersion r first rest) (handle : Int32) :
    (first :: rest).countP (fun turn => turn.Closes handle) = 0 := by
  rw [List.countP_eq_zero]
  intro turn hturn
  rw [decide_eq_true_eq]
  rcases List.mem_cons.mp hturn with rfl | hturn
  · exact not_closes_of_functionByte h.1.1 nofun
  · exact not_closes_of_functionByte (h.2 turn hturn).1 nofun

theorem Returned.functionByte_eq {first : Turn} {rest : List Turn}
    (h : Returned protoVersion first rest) :
    functionByte first.request = some FunctionCode.prepareAndExecute.toU8 := by
  rcases h with ⟨r, ⟨-, hfetching⟩ | ⟨_, _, _, -, hfetching, -⟩⟩ <;> exact hfetching.1.1

theorem Failed.functionByte_eq {first : Turn} {rest : List Turn}
    (h : Failed protoVersion first rest) :
    functionByte first.request = some FunctionCode.prepareAndExecute.toU8 := by
  rcases h with ⟨hfirst, -⟩ | ⟨_, _, _, -, hfetching, -⟩
  · exact hfirst
  · exact hfetching.1.1

/-- **A call that returns a result** has closed its handle once, and all its responses have
been accepted. -/
theorem Returned.closes {first : Turn} {rest : List Turn} (h : Returned protoVersion first rest)
    {handle : Int32} (hcode : responseCode first.frame.data = some handle) (hpos : 0 < handle) :
    (first :: rest).countP (fun turn => turn.Closes handle) = 1 ∧
      AllAccepted protoVersion first rest := by
  rcases h with ⟨r, ⟨hkeep, hfetching⟩ | ⟨fetches, last, casInfo, rfl, hfetching, hlast⟩⟩
  · exact absurd (hfetching.1.queryHandle_eq hcode ▸ hpos) hkeep
  · obtain ⟨-, token, hparse⟩ := hfetching.1
    have hcloses : last.Closes handle :=
      (eq_of_closes hlast).mpr (hfetching.1.queryHandle_eq hcode).symm
    refine ⟨?_, r, token, hparse, fun turn hturn hfetch => ?_⟩
    · rw [← List.cons_append, List.countP_append, hfetching.countP_closes]
      simp [hcloses]
    · rcases List.mem_append.mp hturn with hturn | hturn
      · exact (hfetching.2 turn hturn).2
      · obtain rfl := List.mem_singleton.mp hturn
        exact absurd hcloses (not_closes_of_functionByte hfetch nofun)

/-- **A call that returns an error** has closed nothing, and one of its responses has not
been accepted. -/
theorem Failed.closes {first : Turn} {rest : List Turn} (h : Failed protoVersion first rest)
    (handle : Int32) :
    (first :: rest).countP (fun turn => turn.Closes handle) = 0 ∧
      ¬AllAccepted protoVersion first rest := by
  rcases h with ⟨hfirst, rfl, e, he⟩ | ⟨r, fetches, last, rfl, hfetching, hlast, e, he⟩
  · refine ⟨?_, ?_⟩
    · have hkeeps : ¬first.Closes handle := not_closes_of_functionByte hfirst nofun
      simp [hkeeps]
    · rintro ⟨r, casInfo, hok, -⟩
      rw [he] at hok
      cases hok
  · refine ⟨?_, ?_⟩
    · rw [← List.cons_append, List.countP_append, hfetching.countP_closes]
      have hkeeps : ¬last.Closes handle := not_closes_of_functionByte hlast nofun
      simp [hkeeps]
    · rintro ⟨r', casInfo, hok, haccepted⟩
      obtain ⟨⟨-, token, hparse⟩, -⟩ := hfetching
      obtain ⟨rfl, -⟩ := Prod.mk.inj (Outcome.ok.inj (hparse.symm.trans hok))
      obtain ⟨x, hx⟩ := haccepted last (List.mem_append_right _ (List.mem_singleton_self _)) hlast
      rw [he] at hx
      cases hx

end Call

/-! ### Calls -/

section Calls

variable {network : Network} {before : List Turn}

/-- Since the turns `before` there has been a call, with `Ψ`. -/
def Called (before : List Turn) (Ψ : Turn → List Turn → Prop) (turns : List Turn) : Prop :=
  ∃ first rest, turns = before ++ first :: rest ∧ Ψ first rest

theorem called_concat {Ψ Ψ' : Turn → List Turn → Prop} {turns : List Turn} {turn : Turn}
    (h : Called before Ψ turns) (hΨ : ∀ first rest, Ψ first rest → Ψ' first (rest ++ [turn])) :
    Called before Ψ' (turns ++ [turn]) := by
  obtain ⟨first, rest, rfl, hrest⟩ := h
  exact ⟨first, rest ++ [turn], by rw [List.append_assoc, List.cons_append], hΨ _ _ hrest⟩

/-- What has been said since the turns `before`: the first response to a call, and the turns
of the call that follow. The handle it assigns, if any, has been closed once if and only if
every response has been accepted. -/
def ClosesIff (network : Network) (before : List Turn) (protoVersion : Int32)
    (client : Client Wire) : Prop :=
  ∃ conn first rest, client.conn = some conn ∧
    conn.stream.Held network (before ++ first :: rest) ∧
    functionByte first.request = some FunctionCode.prepareAndExecute.toU8 ∧
    ∀ handle, responseCode first.frame.data = some handle → 0 < handle →
      ((first :: rest).countP (fun turn => turn.Closes handle) = 1 ↔
        AllAccepted protoVersion first rest)

/-- However a call has ended, but for a panic. -/
theorem closesIff_of_ensures {α : Type} {p : Prog (Client Wire) Error α}
    {client client' : Client Wire} {x : Outcome Error α} (hsome : client'.conn.isSome)
    (hp : Ensures (fun c => Talked network (· = before) c ∧ c = client) p
      (fun _ => Talked network (Called before (Returned client.protoVersion)))
      (Talked network (Called before (Failed client.protoVersion))) fun _ => True)
    (hclient : Talked network (· = before) client) (hx : p client = some (x, client'))
    (hpanic : x ≠ .panic) : ClosesIff network before client.protoVersion client' := by
  obtain ⟨conn, hconn⟩ := Option.isSome_iff_exists.mp hsome
  have hpost := hp client x client' ⟨hclient, rfl⟩ hx
  cases x with
  | ok a =>
    obtain ⟨_, hheld, first, rest, rfl, h⟩ := hpost conn hconn
    refine ⟨conn, first, rest, hconn, hheld, h.functionByte_eq, fun handle hcode hpos => ?_⟩
    obtain ⟨hcount, haccepted⟩ := h.closes hcode hpos
    exact iff_of_true hcount haccepted
  | err e =>
    obtain ⟨_, hheld, first, rest, rfl, h⟩ := hpost conn hconn
    refine ⟨conn, first, rest, hconn, hheld, h.functionByte_eq, fun handle _ _ => ?_⟩
    obtain ⟨hcount, hrejected⟩ := h.closes handle
    exact iff_of_false (by omega) hrejected
  | panic => exact absurd rfl hpanic

variable (hnet : network.Responsive) (client : Client Wire)
include hnet

/-- **The first exchange.** -/
theorem ensures_prepareAndExecute_called (sql : String) (params : List Value) :
    Ensures (fun c => Talked network (· = before) c ∧ c = client)
      (Client.prepareAndExecute sql params)
      (fun r => Talked network (Called before (Fetching client.protoVersion r)))
      (Talked network (Called before (Failed client.protoVersion))) fun _ => True := by
  refine ensures_get_bind ?_
  rintro client' ⟨-, rfl⟩
  have hcode : ∀ {turn : Turn} {arguments casInfo},
      turn.request = framed .prepareAndExecute arguments casInfo →
      functionByte turn.request = some FunctionCode.prepareAndExecute.toU8 := by
    intro turn arguments casInfo hrequest
    rw [hrequest, functionByte_framed]
  refine ensures_mono (ensures_framed_talked hnet .prepareAndExecute nofun (X := fun _ => True)
    ?_ ?_ (fun _ _ => trivial) fun _ _ _ _ _ _ => trivial) (fun _ hc => hc.1) (fun _ _ hc => hc)
    (fun _ hc => hc) fun _ _ => trivial
  · rintro _ turn casInfo r casInfo' rfl hrequest hparse
    exact ⟨turn, [], rfl, ⟨hcode hrequest, casInfo', hparse⟩, nofun⟩
  · rintro _ turn casInfo e rfl hrequest hparse
    exact ⟨turn, [], rfl, Or.inl ⟨hcode hrequest, rfl, e, hparse⟩⟩

/-- **A fetch.** -/
theorem ensures_fetch_called (r : PrepareAndExecuteResult) (fetched : Int32) :
    Ensures (Talked network (Called before (Fetching client.protoVersion r)))
      (r.cursor.fetch fetched)
      (fun _ => Talked network (Called before (Fetching client.protoVersion r)))
      (Talked network (Called before (Failed client.protoVersion))) fun _ => True := by
  have hcode : ∀ {turn : Turn} {casInfo}, (writeFetch r.cursor.handle fetched DEFAULT_FETCH_SIZE
      casInfo : Outcome Error _) = .ok turn.request →
      functionByte turn.request = some FunctionCode.fetch.toU8 := by
    intro turn casInfo hrequest
    obtain ⟨arguments, hrequest⟩ := writeFetch_eq hrequest
    rw [hrequest, functionByte_framed]
  refine ensures_mono (ensures_fetch_talked hnet (X := fun _ => True) ?_ ?_ (fun _ _ => trivial)
    fun _ _ _ _ _ _ => trivial) (fun _ hc => hc) (fun _ _ hc => hc) (fun _ hc => hc)
    fun _ _ => trivial
  · intro turns turn casInfo x hcalled hrequest hparse
    refine called_concat hcalled fun first rest h => ⟨h.1, fun t ht => ?_⟩
    rcases List.mem_append.mp ht with ht | ht
    · exact h.2 t ht
    · obtain rfl := List.mem_singleton.mp ht
      exact ⟨hcode hrequest, x, hparse⟩
  · intro turns turn casInfo e hcalled hrequest hparse
    exact called_concat hcalled fun first rest h =>
      Or.inr ⟨r, rest, turn, rfl, h, hcode hrequest, e, hparse⟩

/-- **The end.** -/
theorem ensures_releaseHandle_called (r : PrepareAndExecuteResult) :
    Ensures (Talked network (Called before (Fetching client.protoVersion r)))
      (Client.releaseHandle r.queryHandle)
      (fun _ => Talked network (Called before (Returned client.protoVersion)))
      (Talked network (Called before (Failed client.protoVersion))) fun _ => True := by
  refine ensures_releaseHandle (fun hpos => ?_) fun hkeep c hc => ?_
  · refine ensures_closeQueryHandle_talked hnet fun turns turn casInfo hcalled hrequest => ?_
    exact called_concat hcalled fun first rest h =>
      ⟨r, Or.inr ⟨rest, turn, casInfo, rfl, h, hrequest⟩⟩
  · refine Talked.mono hc ?_
    rintro turns ⟨first, rest, rfl, h⟩
    exact ⟨first, rest, rfl, r, Or.inl ⟨hkeep, h⟩⟩

/-- **When a call closes its handle**: on a network that responds, after any conversation and
whatever the responses, a call of `execute` or `query` that returns, a result or an error,
has closed the handle of its first response exactly once if and only if every response has
been accepted, the first one and those to the fetches. -/
theorem closes_iff (hclient : Talked network (· = before) client) (hsome : client.conn.isSome) :
    (∀ sql params x client', Client.execute sql params client = some (x, client') →
      x ≠ .panic → ClosesIff network before client.protoVersion client') ∧
    ∀ fuel sql params x client', Client.query fuel sql params client = some (x, client') →
      x ≠ .panic → ClosesIff network before client.protoVersion client' := by
  have hkept : ∀ {α : Type} {p : Prog (Client Wire) Error α} {x client'},
      Triple (fun c : Client Wire => c.conn.isSome) p (fun _ c => c.conn.isSome)
        (fun c => c.conn.isSome) → p client = some (x, client') → client'.conn.isSome := by
    intro α p x client' htriple hx
    have hpost := htriple client x client' hsome hx
    cases x <;> exact hpost
  constructor
  · intro sql params x client' hx hpanic
    refine closesIff_of_ensures (hkept ((operationRules_isSome true).execute sql params) hx)
      (ensures_execute (ensures_prepareAndExecute_called hnet client sql params)
        (fun r => ensures_releaseHandle_called hnet client r) fun _ _ => trivial) hclient hx hpanic
  · intro fuel sql params x client' hx hpanic
    refine closesIff_of_ensures (hkept ((operationRules_isSome true).query fuel sql params) hx)
      (ensures_query (ensures_prepareAndExecute_called hnet client sql params)
        (fun r => ensures_fetch_called hnet client r) (fun _ _ _ => trivial)
        (fun r => ensures_releaseHandle_called hnet client r) fuel) hclient hx hpanic

end Calls

/-! ### A server that refuses to be fetched from

It answers a query with one of its two rows, under the handle 1, and everything else with an
error. -/

namespace RefusedFetch

theorem length_lt :
    (PacketWriter.writeInt 1 ++ TwoRows.prepareAndExecuteWord).length < 2 ^ 32 := by
  decide

/-- The answers of the server. -/
def server (_ : ℕ) (request : List UInt8) : Frame :=
  if functionByte request = some FunctionCode.prepareAndExecute.toU8 then
    TwoRows.frame 1 TwoRows.prepareAndExecuteWord length_lt
  else Frame.refusal

/-- The network. -/
def network : Network := .ofServer server

/-- A client of the server. -/
def client : Client Wire := Client.connected (Wire.new network)

theorem responsive : network.Responsive := Network.ofServer_responsive server

theorem talked : Talked network (· = []) client := by
  intro conn hconn
  obtain rfl := Option.some.inj hconn
  exact ⟨[], Wire.held_new network, rfl⟩

/-- The fetch is refused, and the query with it. -/
theorem query_eq : ∃ client', Client.query 2 "SELECT n FROM t" [] client =
    some (.err (.protocol (.serverError (-4) "no")), client') := by
  have hfirst : (Client.query 2 "SELECT n FROM t" [] client).map Prod.fst =
      some (.err (.protocol (.serverError (-4) "no"))) := by
    decide +kernel
  obtain ⟨⟨x, client'⟩, hquery, rfl⟩ := Option.map_eq_some_iff.mp hfirst
  exact ⟨client', hquery⟩

end RefusedFetch

open RefusedFetch in
/-- The query returns the error of the server, and never closes its handle. -/
theorem query_refusedFetch : ∃ client' conn first rest,
    Client.query 2 "SELECT n FROM t" [] client =
      some (.err (.protocol (.serverError (-4) "no")), client') ∧
    client'.conn = some conn ∧ conn.stream.Held network (first :: rest) ∧
    responseCode first.frame.data = some 1 ∧
    (first :: rest).countP (fun turn => turn.Closes 1) = 0 := by
  obtain ⟨client', hquery⟩ := query_eq
  have hsome : client'.conn.isSome :=
    (operationRules_isSome true).query 2 _ _ client _ client' rfl hquery
  obtain ⟨conn, hconn⟩ := Option.isSome_iff_exists.mp hsome
  obtain ⟨_, hheld, first, rest, rfl, hfailed⟩ := ensures_query
    (ensures_prepareAndExecute_called responsive client "SELECT n FROM t" [])
    (fun r => ensures_fetch_called responsive client r) (fun _ _ _ => trivial)
    (fun r => ensures_releaseHandle_called responsive client r) 2 client _ client' ⟨talked, rfl⟩
    hquery conn hconn
  have hanswer := hheld.answered [] first rest rfl
  have hframe : server 1 first.request = first.frame := Option.some.inj hanswer
  rw [server, if_pos hfailed.functionByte_eq] at hframe
  refine ⟨client', conn, first, rest, hquery, hconn, hheld, ?_, (hfailed.closes 1).1⟩
  rw [← hframe]
  decide

open RefusedFetch in
/-- The fetch has not been accepted, so this is as it is said. -/
theorem closes_iff_refusedFetch : ∃ client', Client.query 2 "SELECT n FROM t" [] client =
    some (.err (.protocol (.serverError (-4) "no")), client') ∧ ClosesIff network [] 0 client' := by
  obtain ⟨client', hquery⟩ := query_eq
  exact ⟨client', hquery, (closes_iff responsive client talked rfl).2 2 _ _ _ client' hquery nofun⟩

end CubridDriver
