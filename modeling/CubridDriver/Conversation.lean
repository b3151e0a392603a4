import CubridDriver.Fetch
import CubridDriver.Stale
import CubridDriver.Lib.History

/-!
# Conversations

Where no socket call fails, and the server answers each request, what passes over the
wire is a conversation: a request, the frame that answers it, read to its end, and so on.
An operation makes some exchanges, and it may fail in the middle, because the frame holds
an error or does not parse. But the frame has been read by then, all of it and nothing
else, so requests and responses never get out of step:
`CubridDriver.Session.reachable_lockstep`.

What an operation has said, and been told, is then a list of turns, and the rules of this
module speak of that list instead of the wire.
-/

namespace CubridDriver

open Prog Connection

/-! ### Turns -/

/-- A request, and the frame that answers it. -/
structure Turn where
  /-- The request. -/
  request : List UInt8
  /-- The frame. -/
  frame : Frame

theorem Frame.length_data_le (frame : Frame) : frame.data.length ≤ isizeMax := by
  have hlt := frame.length_lt
  rw [Frame.length_data]
  simp only [SIZE_CAS_INFO, isizeMax]
  omega

/-- What a parser is given of a frame. -/
def Frame.response (frame : Frame) : Bytes := ⟨frame.data, frame.length_data_le⟩

theorem Frame.response_eq {frame : Frame} {resp : Bytes} (h : resp.1 = frame.data) :
    resp = frame.response := Subtype.ext h

namespace Turn

/-- What happens on the wire in a turn, by its number: the request is sent, and the length
and the data of the frame are read. -/
def events (turn : Turn) (number : ℕ) : List Event :=
  [.sent turn.request,
    .received number turn.request
      ((BigEndian.encode 4 turn.frame.body.length).map fun b => (number, b)),
    .received number turn.request (turn.frame.data.map fun b => (number, b))]

/-- What happens on the wire in a conversation. Turns are counted from one. -/
def trace (turns : List Turn) : List Event :=
  ((turns.zipIdx 1).map fun t => t.1.events t.2).flatten

theorem trace_concat (turns : List Turn) (turn : Turn) :
    trace (turns ++ [turn]) = trace turns ++ turn.events (turns.length + 1) := by
  rw [trace, List.zipIdx_append, List.map_append, List.flatten_append, Nat.add_comm 1]
  simp [trace]

/-- Each request has been sent once, in its turn. -/
theorem requests_trace (turns : List Turn) : requests (trace turns) = turns.map request := by
  induction turns using List.reverseRecOn with
  | nil => rfl
  | append_singleton turns turn ih =>
    rw [trace_concat, requests, List.filterMap_append, List.map_append]
    exact congrArg (· ++ [turn.request]) ih

end Turn

/-- The frames that have been read, each by its length and its data. -/
def framesRead : List Event → ℕ
  | .received .. :: .received .. :: rest => framesRead rest + 1
  | _ :: rest => framesRead rest
  | [] => 0

theorem framesRead_trace (turns : List Turn) : framesRead (Turn.trace turns) = turns.length := by
  have hfrom (k : ℕ) :
      framesRead ((turns.zipIdx k).map fun t => t.1.events t.2).flatten = turns.length := by
    induction turns generalizing k with
    | nil => rfl
    | cons turn turns ih =>
      rw [List.zipIdx_cons, List.map_cons, List.flatten_cons, List.length_cons, ← ih (k + 1)]
      rfl
  exact hfrom 1

/-! ### Networks that respond -/

/-- No socket call fails, and the server answers each request but the one that closes the
connection, to which no answer is read. -/
structure Network.Responsive (network : Network) : Prop where
  prompt : ∀ clock, network.fate clock = .done
  answers : ∀ number request, functionByte request ≠ some FunctionCode.conClose.toU8 →
    ∃ frame, network.answer number request = some frame

/-- The frame of a refusal: the code -1, the error -4, and its text. -/
def Frame.refusal : Frame :=
  ⟨(1, 2, 3, 4), [255, 255, 255, 255, 255, 255, 255, 252, 110, 111, 0], by decide⟩

theorem Network.ofServer_responsive (server : ℕ → List UInt8 → Frame) :
    (Network.ofServer server).Responsive :=
  ⟨fun _ => rfl, fun _ _ _ => ⟨_, rfl⟩⟩

/-- The wire has held a conversation, and nothing is to arrive. -/
structure Wire.Held (network : Network) (turns : List Turn) (w : Wire) : Prop where
  network_eq : w.network = network
  inbox_eq : w.inbox = []
  trace_eq : w.trace = Turn.trace turns
  /-- Each frame is the answer to the request of its turn. -/
  answered : History.Each (fun before turn =>
    network.answer (before.length + 1) turn.request = some turn.frame) turns

namespace Wire

variable {network : Network} {turns : List Turn} {w : Wire}

theorem held_new (network : Network) : (Wire.new network).Held network [] :=
  ⟨rfl, rfl, rfl, History.each_nil⟩

theorem Held.number_eq (h : w.Held network turns) : w.number = turns.length := by
  rw [number, h.trace_eq, Turn.requests_trace, List.length_map]

/-- **One more turn.** -/
theorem Held.turn (h : w.Held network turns) {turn : Turn}
    (hanswer : network.answer (turns.length + 1) turn.request = some turn.frame) :
    (((w.deliver turn.request).take 4).take (w.deliver turn.request).frameLength).Held network
      (turns ++ [turn]) ∧ (w.deliver turn.request).inbox.map Prod.snd = turn.frame.bytes := by
  let w' := w.deliver turn.request
  have hnumber : w'.number = turns.length + 1 := by rw [number_deliver, h.number_eq]
  have hlast : w'.lastRequest = turn.request := lastRequest_deliver w turn.request
  have hinbox : w'.inbox = turn.frame.bytes.map fun b => (turns.length + 1, b) := by
    change w.inbox ++ w.answerTo turn.request = _
    rw [h.inbox_eq, List.nil_append, answerTo, h.number_eq, h.network_eq, hanswer]
  have hbytes : w'.inbox.map Prod.snd = turn.frame.bytes := by
    rw [hinbox, List.map_map]
    exact List.map_id _
  obtain ⟨hlen, hframe, -⟩ := frameLength_of_frame hbytes
  refine ⟨⟨h.network_eq, inbox_take_frame (Or.inr ⟨_, hbytes⟩) hlen, ?_, ?_⟩, hbytes⟩
  -- the length is read from the head of the frame, and the data is the rest
  · have hhead : w'.inbox.take 4 = (BigEndian.encode 4 turn.frame.body.length).map
        fun b => (turns.length + 1, b) := by
      rw [hinbox, ← List.map_take, Frame.bytes, List.take_left' (BigEndian.length_encode _ _)]
    have hdata : (w'.inbox.drop 4).take w'.frameLength =
        turn.frame.data.map fun b => (turns.length + 1, b) := by
      rw [hframe, List.take_length, hinbox, ← List.map_drop, Frame.bytes,
        List.drop_left' (BigEndian.length_encode _ _)]
    rw [trace_take_take, hnumber, hlast, hhead, hdata, Turn.trace_concat, ← h.trace_eq]
    exact List.append_assoc _ _ _
  · exact History.each_concat.mpr ⟨h.answered, hanswer⟩

end Wire

/-! ### Rules for exchanges -/

/-- The client, as long as it is connected, has held a conversation with `Φ`. -/
def Talked (network : Network) (Φ : List Turn → Prop) : Client Wire → Prop :=
  Client.Over fun conn => ∃ turns, conn.stream.Held network turns ∧ Φ turns

theorem Talked.mono {network : Network} {Φ Ψ : List Turn → Prop} {client : Client Wire}
    (h : Talked network Φ client) (hΦ : ∀ turns, Φ turns → Ψ turns) : Talked network Ψ client :=
  fun conn hconn =>
    let ⟨turns, hheld, hturns⟩ := h conn hconn
    ⟨turns, hheld, hΦ turns hturns⟩

/-- In the middle of a turn: the request has been sent, and the answer is to arrive. -/
def Asked (network : Network) (Φ : List Turn → Prop) (data : List UInt8)
    (conn : Connection Wire) : Prop :=
  ∃ turns frame w, Wire.Held network turns w ∧ Φ turns ∧
    network.answer (turns.length + 1) data = some frame ∧ conn.stream = w.deliver data

/-- At the end of a turn with the given request and response. -/
def Told (network : Network) (Φ : List Turn → Prop) (data : List UInt8) (resp : Bytes)
    (conn : Connection Wire) : Prop :=
  ∃ turns turn, Φ turns ∧ turn.request = data ∧ resp = turn.frame.response ∧
    conn.stream.Held network (turns ++ [turn])

section Rules

variable {network : Network} (hnet : network.Responsive) {Φ : List Turn → Prop}
include hnet

/-- What is sent is answered. -/
theorem ensures_sendFramed_talked {data : List UInt8} {P E X : Connection Wire → Prop}
    (hdata : functionByte data ≠ some FunctionCode.conClose.toU8)
    (hP : ∀ conn, P conn → ∃ turns, conn.stream.Held network turns ∧ Φ turns) :
    Ensures P (sendFramed data) (fun _ => Asked network Φ data) E X := by
  intro conn x conn' hconn hx
  obtain ⟨turns, hheld, hΦ⟩ := hP conn hconn
  have hfate : ∀ clock, conn.stream.network.fate clock = .done := hheld.network_eq ▸ hnet.prompt
  obtain ⟨frame, hframe⟩ := hnet.answers (turns.length + 1) data hdata
  obtain ⟨rfl, rfl⟩ := Prod.mk.inj (Option.some.inj ((sendFramed_prompt hfate data).symm.trans hx))
  exact ⟨turns, frame, conn.stream, hheld, hΦ, hframe, rfl⟩

/-- What is received is the answer to what was sent. -/
theorem ensures_recvFramed_talked {data : List UInt8} {E X : Connection Wire → Prop} :
    Ensures (Asked network Φ data) recvFramed (Told network Φ data) E X := by
  rintro conn x conn' ⟨turns, frame, w, hheld, hΦ, hframe, hstream⟩ hx
  have hfate : ∀ clock, conn.stream.network.fate clock = .done := by
    rw [hstream]
    exact fun clock => hheld.network_eq ▸ hnet.prompt clock
  obtain ⟨hturn, hbytes⟩ := @Wire.Held.turn network turns w hheld ⟨data, frame⟩ hframe
  rw [← hstream] at hturn hbytes
  obtain ⟨resp, hresp, hrecv⟩ := recvFramed_prompt hfate hbytes
  obtain ⟨rfl, rfl⟩ := Prod.mk.inj (Option.some.inj (hrecv.symm.trans hx))
  exact ⟨turns, ⟨data, frame⟩, hΦ, rfl, Frame.response_eq hresp, hturn⟩

/-- **The rule of the exchange**: there is one more turn, and its frame is parsed. No
builder of a request returns an error. -/
theorem ensures_exchange_talked {α : Type} {request : CasInfo → Outcome Error (List UInt8)}
    {parse : Bytes → Outcome ProtocolError (α × CasInfo)} {Q : α → List Turn → Prop}
    {E X : List Turn → Prop}
    (hrequest : ∀ casInfo data, request casInfo = .ok data →
      functionByte data ≠ some FunctionCode.conClose.toU8)
    (hbuild : ∀ casInfo e, request casInfo ≠ .err e)
    (hok : ∀ turns (turn : Turn) casInfo a casInfo', Φ turns → request casInfo = .ok turn.request →
      parse turn.frame.response = .ok (a, casInfo') → Q a (turns ++ [turn]))
    (herr : ∀ turns (turn : Turn) casInfo e, Φ turns → request casInfo = .ok turn.request →
      parse turn.frame.response = .err e → E (turns ++ [turn]))
    (hpanic : ∀ turns, Φ turns → X turns)
    (hstop : ∀ turns (turn : Turn) casInfo, Φ turns → request casInfo = .ok turn.request →
      parse turn.frame.response = .panic → X (turns ++ [turn])) :
    Ensures (Talked network Φ) (Client.onConn (exchange request parse))
      (fun a => Talked network (Q a)) (Talked network E) (Talked network X) := by
  refine ensures_onConn (ensures_exchange
    (S := fun data conn => (∃ casInfo, request casInfo = .ok data) ∧ Asked network Φ data conn)
    (T := fun resp conn => ∃ casInfo data, request casInfo = .ok data ∧
      Told network Φ data resp conn) ?_ ?_ ?_ ?_ ?_ ?_ ?_)
  · intro conn data hdata
    exact ensures_post (ensures_sendFramed_talked hnet (hrequest _ _ hdata) fun c hc => hc.1)
      fun _ c hc => ⟨⟨conn.casInfo, hdata⟩, hc⟩
  · intro data
    refine ensures_assume fun ⟨casInfo, hdata⟩ => ?_
    exact ensures_post (ensures_recvFramed_talked hnet) fun _ _ hc => ⟨casInfo, data, hdata, hc⟩
  · exact fun conn e he _ => absurd he (hbuild conn.casInfo e)
  · rintro conn - ⟨turns, hheld, hΦ⟩
    exact ⟨turns, hheld, hpanic turns hΦ⟩
  · rintro resp conn e hparse ⟨casInfo, _, hrequest, turns, turn, hΦ, rfl, rfl, hheld⟩
    exact ⟨_, hheld, herr turns turn casInfo e hΦ hrequest hparse⟩
  · rintro resp conn hparse ⟨casInfo, _, hrequest, turns, turn, hΦ, rfl, rfl, hheld⟩
    exact ⟨_, hheld, hstop turns turn casInfo hΦ hrequest hparse⟩
  · rintro resp conn a casInfo' hparse ⟨casInfo, _, hrequest, turns, turn, hΦ, rfl, rfl, hheld⟩
    exact ⟨_, hheld, hok turns turn casInfo a casInfo' hΦ hrequest hparse⟩

omit hnet in
/-- Only `close` asks the server to close the connection. -/
theorem functionByte_ne_conClose (code : FunctionCode) (hcode : code ≠ .conClose)
    (arguments : List UInt8) (casInfo : CasInfo) :
    functionByte (framed code arguments casInfo) ≠ some FunctionCode.conClose.toU8 := by
  rw [functionByte_framed]
  exact fun h => hcode (FunctionCode.toU8_inj.mp (Option.some.inj h))

/-- The rule of the exchange, for a request that can always be built. -/
theorem ensures_framed_talked {α : Type} (code : FunctionCode) (hcode : code ≠ .conClose)
    {arguments : List UInt8}
    {parse : Bytes → Outcome ProtocolError (α × CasInfo)} {Q : α → List Turn → Prop}
    {E X : List Turn → Prop}
    (hok : ∀ turns (turn : Turn) casInfo a casInfo', Φ turns →
      turn.request = framed code arguments casInfo →
      parse turn.frame.response = .ok (a, casInfo') → Q a (turns ++ [turn]))
    (herr : ∀ turns (turn : Turn) casInfo e, Φ turns →
      turn.request = framed code arguments casInfo →
      parse turn.frame.response = .err e → E (turns ++ [turn]))
    (hpanic : ∀ turns, Φ turns → X turns)
    (hstop : ∀ turns (turn : Turn) casInfo, Φ turns →
      turn.request = framed code arguments casInfo →
      parse turn.frame.response = .panic → X (turns ++ [turn])) :
    Ensures (Talked network Φ)
      (Client.onConn (exchange (fun casInfo => .ok (framed code arguments casInfo)) parse))
      (fun a => Talked network (Q a)) (Talked network E) (Talked network X) := by
  refine ensures_exchange_talked hnet (Q := Q) (E := E) ?_ ?_ ?_ ?_ hpanic ?_
  · rintro casInfo _ heq
    obtain rfl := Outcome.ok.inj heq
    exact functionByte_ne_conClose code hcode _ _
  · exact fun _ _ heq => by cases heq
  · exact fun turns turn casInfo a casInfo' hΦ hrequest =>
      hok turns turn casInfo a casInfo' hΦ (Outcome.ok.inj hrequest).symm
  · exact fun turns turn casInfo e hΦ hrequest =>
      herr turns turn casInfo e hΦ (Outcome.ok.inj hrequest).symm
  · exact fun turns turn casInfo hΦ hrequest =>
      hstop turns turn casInfo hΦ (Outcome.ok.inj hrequest).symm

/-- The rule of the exchange, for a fetch; the position it starts at may overflow. -/
theorem ensures_fetch_talked {cursor : Cursor} {fetched : Int32} {Q E X : List Turn → Prop}
    (hok : ∀ turns (turn : Turn) casInfo x, Φ turns →
      (writeFetch cursor.handle fetched DEFAULT_FETCH_SIZE casInfo : Outcome Error _) =
        .ok turn.request →
      parseFetch turn.frame.response cursor.columns cursor.stmtType = .ok x →
      Q (turns ++ [turn]))
    (herr : ∀ turns (turn : Turn) casInfo e, Φ turns →
      (writeFetch cursor.handle fetched DEFAULT_FETCH_SIZE casInfo : Outcome Error _) =
        .ok turn.request →
      parseFetch turn.frame.response cursor.columns cursor.stmtType = .err e →
      E (turns ++ [turn]))
    (hpanic : ∀ turns, Φ turns → X turns)
    (hstop : ∀ turns (turn : Turn) casInfo, Φ turns →
      (writeFetch cursor.handle fetched DEFAULT_FETCH_SIZE casInfo : Outcome Error _) =
        .ok turn.request →
      parseFetch turn.frame.response cursor.columns cursor.stmtType = .panic →
      X (turns ++ [turn])) :
    Ensures (Talked network Φ) (cursor.fetch fetched) (fun _ => Talked network Q)
      (Talked network E) (Talked network X) := by
  refine ensures_exchange_talked hnet ?_ ?_ ?_ herr hpanic hstop
  · intro casInfo data hdata
    obtain ⟨start, -, hframed⟩ := Outcome.bind_eq_ok.mp hdata
    obtain rfl := Outcome.ok.inj hframed
    exact functionByte_ne_conClose .fetch nofun _ _
  · intro casInfo e he
    rcases Outcome.bind_eq_err.mp he with h | ⟨start, -, h⟩
    · exact checkedAdd_ne_err _ _ e h
    · cases h
  · exact fun turns turn casInfo a casInfo' hΦ hrequest =>
      hok turns turn casInfo (a, casInfo') hΦ hrequest

/-- **The rule of closing a query handle**: there is one more turn. It never fails. -/
theorem ensures_closeQueryHandle_talked {handle : Int32} {Ψ : List Turn → Prop}
    {E X : Client Wire → Prop}
    (hΨ : ∀ turns (turn : Turn) casInfo, Φ turns →
      turn.request = writeCloseReqHandle handle casInfo → Ψ (turns ++ [turn])) :
    Ensures (Talked network Φ) (Client.closeQueryHandle handle) (fun _ => Talked network Ψ) E
      X := by
  have hturn : Triple (Talked network Φ) (Client.closeQueryHandle handle)
      (fun _ => Talked network Ψ) (Talked network Ψ) := by
    refine triple_closeQueryHandle (S := fun conn => ∃ casInfo,
      Asked network Φ (writeCloseReqHandle handle casInfo) conn) ?_ ?_
    · intro conn
      have hdata : functionByte (writeCloseReqHandle handle conn.casInfo) ≠
          some FunctionCode.conClose.toU8 := by
        rw [writeCloseReqHandle, functionByte_framed]
        decide
      exact triple_post (ensures_sendFramed_talked hnet hdata fun c hc => hc.1)
        fun _ c hc => ⟨conn.casInfo, hc⟩
    · rintro conn x conn' ⟨casInfo, hasked⟩ hx
      have hpost := ensures_recvFramed_talked hnet (E := fun _ => False) (X := fun _ => False)
        conn x conn' hasked hx
      cases x with
      | ok resp =>
        obtain ⟨turns, turn, hΦ, hrequest, -, hheld⟩ := hpost
        exact ⟨_, hheld, hΨ turns turn casInfo hΦ hrequest⟩
      | err e => exact hpost.elim
      | panic => exact hpost.elim
  intro client x client' hclient hx
  -- whatever the response, it is ignored
  have hreturns : x = .ok () := by
    cases hconn : client.conn with
    | none =>
      rw [Client.closeQueryHandle, ignoreErr, Client.onConn, hconn] at hx
      exact (Prod.mk.inj (Option.some.inj hx)).1.symm
    | some conn =>
      obtain ⟨turns, hheld, -⟩ := hclient conn hconn
      obtain ⟨conn', hclose, -⟩ := closeQueryHandle_prompt hconn
        (hheld.network_eq ▸ hnet.prompt) handle
      exact (Prod.mk.inj (Option.some.inj (hclose.symm.trans hx))).1.symm
  subst hreturns
  exact hturn client _ client' hclient hx

end Rules

/-! ### Rules for turns -/

/-- What is known of the turns of one operation. As in `Session.StepRules`, it starts with
`P`, and `E` holds in the end: an exchange leads there whether or not its frame is accepted. -/
structure TurnRules (target : Option Statement) (P : List Turn → Prop)
    (A : Cursor → List Turn → Prop) (E : List Turn → Prop) (N : Statement → List Turn → Prop)
    (C : List Turn → Prop) : Prop where
  prepareAndExecute : ∀ turns turn sql autoCommit casInfo, P turns →
    turn.request = writePrepareAndExecute sql autoCommit casInfo → E (turns ++ [turn]) ∧
      ∀ protoVersion r casInfo', parsePrepareAndExecute turn.frame.response protoVersion =
        .ok (r, casInfo') → A r.cursor (turns ++ [turn])
  executeHandle : ∀ turns turn (stmt : Statement) autoCommit casInfo, target = some stmt →
    stmt.closed = false → P turns →
    turn.request = writeExecute stmt.queryHandle stmt.statementType [] autoCommit casInfo →
    A stmt.cursor (turns ++ [turn])
  fetch : ∀ turns turn (cursor : Cursor) fetched casInfo, A cursor turns →
    (writeFetch cursor.handle fetched DEFAULT_FETCH_SIZE casInfo : Outcome Error _) =
      .ok turn.request → A cursor (turns ++ [turn])
  release : ∀ turns turn (cursor : Cursor) casInfo, cursor.owned = true → cursor.handle > 0 →
    A cursor turns → turn.request = writeCloseReqHandle cursor.handle casInfo → E (turns ++ [turn])
  leave : ∀ cursor turns, A cursor turns → E turns
  prepare : ∀ turns turn sql autoCommit casInfo, P turns →
    turn.request = writePrepare sql autoCommit casInfo → E (turns ++ [turn]) ∧
      ∀ stmt r casInfo', parsePrepare turn.frame.response = .ok (r, casInfo') →
        stmt.queryHandle = r.queryHandle → stmt.closed = false → N stmt (turns ++ [turn])
  endTran : ∀ turns turn tranType casInfo, P turns →
    turn.request = writeEndTran tranType casInfo → E (turns ++ [turn])
  ping : ∀ turns turn autoCommit casInfo, P turns →
    turn.request = writeGetDbVersion autoCommit casInfo → E (turns ++ [turn])
  closeHandle : ∀ turns turn (stmt : Statement) casInfo, target = some stmt →
    stmt.closed = false → stmt.queryHandle > 0 → P turns →
    turn.request = writeCloseReqHandle stmt.queryHandle casInfo → C (turns ++ [turn])
  stay : ∀ turns, P turns → E turns

section TurnRules

variable {network : Network} {target : Option Statement} {P E C : List Turn → Prop}
  {A : Cursor → List Turn → Prop} {N : Statement → List Turn → Prop}

/-- The rule of the exchange, where it does not matter whether the frame is accepted. -/
theorem triple_framed_talked (hnet : network.Responsive) {α : Type} (code : FunctionCode)
    (hcode : code ≠ .conClose) {arguments : List UInt8}
    {parse : Bytes → Outcome ProtocolError (α × CasInfo)} {Q : α → List Turn → Prop}
    (h : ∀ turns (turn : Turn) casInfo, P turns → turn.request = framed code arguments casInfo →
      (∀ a casInfo', parse turn.frame.response = .ok (a, casInfo') → Q a (turns ++ [turn])) ∧
        E (turns ++ [turn])) (hstay : ∀ turns, P turns → E turns) :
    Triple (Talked network P)
      (Client.onConn (exchange (fun casInfo => .ok (framed code arguments casInfo)) parse))
      (fun a => Talked network (Q a)) (Talked network E) :=
  ensures_framed_talked hnet code hcode
    (fun turns turn casInfo a casInfo' hP hrequest =>
      (h turns turn casInfo hP hrequest).1 a casInfo')
    (fun turns turn casInfo _ hP hrequest _ => (h turns turn casInfo hP hrequest).2) hstay
    fun turns turn casInfo hP hrequest _ => (h turns turn casInfo hP hrequest).2

/-- **What the turns of an operation keep, the operation keeps.** -/
theorem TurnRules.stepRules (hnet : network.Responsive) (h : TurnRules target P A E N C) :
    Session.StepRules target (Talked network P) (fun cursor => Talked network (A cursor))
      (Talked network E) (fun stmt => Talked network (N stmt)) (Talked network C) where
  prepareAndExecute sql params := ensures_get_bind fun client _ => by
    refine triple_framed_talked hnet .prepareAndExecute nofun
      (fun turns turn casInfo hP hrequest => ?_) h.stay
    obtain ⟨hE, hA⟩ := h.prepareAndExecute turns turn _ _ casInfo hP hrequest
    exact ⟨hA client.protoVersion, hE⟩
  executeHandle stmt hstmt hopen := ensures_get_bind fun client _ => by
    refine triple_framed_talked hnet .execute nofun
      (fun turns turn casInfo hP hrequest => ?_) h.stay
    have hA := h.executeHandle turns turn stmt _ casInfo hstmt hopen hP hrequest
    exact ⟨fun _ _ _ => hA, h.leave _ _ hA⟩
  fetch cursor fetched :=
    have hleave : ∀ turns (turn : Turn) casInfo, A cursor turns →
        (writeFetch cursor.handle fetched DEFAULT_FETCH_SIZE casInfo : Outcome Error _) =
          .ok turn.request → E (turns ++ [turn]) :=
      fun turns turn casInfo hA hrequest =>
        h.leave cursor _ (h.fetch turns turn cursor fetched casInfo hA hrequest)
    ensures_fetch_talked hnet
      (fun turns turn casInfo _ hA hrequest _ =>
        h.fetch turns turn cursor fetched casInfo hA hrequest)
      (fun turns turn casInfo _ hA hrequest _ => hleave turns turn casInfo hA hrequest)
      (h.leave cursor) fun turns turn casInfo hA hrequest _ => hleave turns turn casInfo hA hrequest
  release cursor howned hpos := ensures_closeQueryHandle_talked hnet fun turns turn casInfo =>
    h.release turns turn cursor casInfo howned hpos
  leave cursor client hA := hA.mono (h.leave cursor)
  prepare sql := ensures_get_bind fun client _ => by
    refine triple_bind (triple_framed_talked hnet .prepare nofun
      (Q := fun r turns => ∀ stmt, stmt.queryHandle = r.queryHandle → stmt.closed = false →
        N stmt turns) (fun turns turn casInfo hP hrequest => ?_) h.stay) fun r => ?_
    · obtain ⟨hE, hN⟩ := h.prepare turns turn _ _ casInfo hP hrequest
      exact ⟨fun r casInfo' hparse stmt => hN stmt r casInfo' hparse, hE⟩
    · exact triple_pure fun client hc => hc.mono fun turns hN => hN _ rfl rfl
  endTran tranType := by
    refine triple_framed_talked hnet .endTran nofun
      (fun turns turn casInfo hP hrequest => ?_) h.stay
    have hE := h.endTran turns turn tranType casInfo hP hrequest
    exact ⟨fun _ _ _ => hE, hE⟩
  ping := ensures_get_bind fun client _ => by
    refine triple_framed_talked hnet .getDbVersion nofun
      (fun turns turn casInfo hP hrequest => ?_) h.stay
    have hE := h.ping turns turn _ casInfo hP hrequest
    exact ⟨fun _ _ _ => hE, hE⟩
  closeHandle stmt hstmt hopen hpos := ensures_closeQueryHandle_talked hnet
    fun turns turn casInfo => h.closeHandle turns turn stmt casInfo hstmt hopen hpos
  stay client hP := hP.mono h.stay
  setAutoCommit _ _ hP := fun conn hconn => hP.mono h.stay conn hconn

end TurnRules

/-! ### Sessions -/

namespace Session

open Wire

variable {network : Network} {s s' : Session Wire}

/-- A session with a client that has just been connected to the network. -/
def ConnectedTo (network : Network) (s : Session Wire) : Prop :=
  ∃ casInfo autoCommit protoVersion,
    s = start ⟨Wire.new network, casInfo⟩ autoCommit protoVersion

/-- What a closed client leaves: after a conversation it has asked the server to close the
connection. -/
def Parted (network : Network) (Φ : List Turn → Prop) (w : Wire) : Prop :=
  ∃ turns w₀ casInfo, Wire.Held network turns w₀ ∧ Φ turns ∧
    w = w₀.deliver (writeConClose casInfo)

/-- The client has held a conversation, and if it is closed it has done so before. `I` holds
of the statements and of the conversation. -/
def InTalk (network : Network) (I : List Statement → List Turn → Prop) (s : Session Wire) :
    Prop :=
  (s.client.conn.isSome ∧ s.shut = none ∧ Talked network (I s.statements) s.client) ∨
    s.client.conn = none ∧ ∃ w statements, s.shut = some w ∧ Parted network (I statements) w

variable {I : List Statement → List Turn → Prop}

/-- **Closing the client** ends the conversation. -/
theorem InTalk.closeClient (hnet : network.Responsive) (hs : s.InTalk network I) :
    s.closeClient.InTalk network I := by
  rw [Session.closeClient]
  cases hconn : s.client.conn with
  | none => exact hs
  | some conn =>
    rcases hs with ⟨-, -, htalked⟩ | ⟨hnone, -⟩
    · obtain ⟨turns, hheld, hI⟩ := htalked conn hconn
      refine Or.inr ⟨rfl, _, s.statements, rfl, turns, conn.stream, conn.casInfo, hheld, hI, ?_⟩
      change (Wire.writeAll _ conn.stream).2 = _
      rw [Wire.writeAll, hheld.network_eq, hnet.prompt]
    · rw [hconn] at hnone
      cases hnone

/-- The invariant holds of the statements a step leaves. -/
theorem talked_of_leaves {statements : List Statement} {op : Operation}
    (hset : ∀ statements i stmt', stmt'.closed = true → ∀ turns, I statements turns →
      I (statements.set i stmt') turns)
    (h : s.Leaves statements op (Talked network (I statements))
      (fun stmt => Talked network (I (statements ++ [stmt])))
      (Talked network fun turns => ∀ i stmt', op = .stmtClose i → stmt'.closed = true →
        I (statements.set i stmt') turns)) : Talked network (I s.statements) s.client := by
  rcases h with ⟨hkept, hI⟩ | ⟨stmt, hadded, hI⟩ | ⟨i, stmt, stmt', hop, -, hset', -, hclosed, hI⟩
  · exact hkept ▸ hI
  · exact hadded ▸ hI
  · rw [hset']
    rcases hI with ⟨-, hI⟩ | ⟨-, hI⟩
    · exact hI.mono fun turns hturns => hturns i stmt' hop hclosed
    · exact hI.mono (hset statements i stmt' hclosed)

/-- **The rule for sessions**: what the parts of each operation keep, a session keeps. -/
theorem reachable_inTalk (hnet : network.Responsive) (hinit : I [] [])
    {A : List Statement → Cursor → List Turn → Prop}
    (hrules : ∀ statements op, TurnRules (Operation.target statements op) (I statements)
      (A statements) (I statements) (fun stmt => I (statements ++ [stmt]))
      fun turns => ∀ i stmt', op = .stmtClose i → stmt'.closed = true →
        I (statements.set i stmt') turns)
    (hset : ∀ statements i stmt', stmt'.closed = true → ∀ turns, I statements turns →
      I (statements.set i stmt') turns)
    (hs : (lts (ConnectedTo network)).Reachable s) : s.InTalk network I := by
  refine Lts.Reachable.invariant hs ?_ ?_
  · rintro _ ⟨casInfo, autoCommit, protoVersion, rfl⟩
    refine Or.inl ⟨rfl, rfl, fun conn hconn => ⟨[], ?_, hinit⟩⟩
    obtain rfl := Option.some.inj hconn
    exact held_new network
  · rintro s ⟨fuel, op⟩ s' hs hstep
    obtain ⟨x, hperform⟩ := step_eq_ok.mp hstep
    rcases eq_or_ne op .close with rfl | hop
    · obtain ⟨-, rfl⟩ := Prod.mk.inj (Option.some.inj hperform)
      exact hs.closeClient hnet
    rcases hs with ⟨hconn, hshut, htalked⟩ | ⟨hnone, w, statements, hshut, hparted⟩
    · obtain ⟨hsome, hkept⟩ := conn_of_perform hop hperform
      refine Or.inl ⟨hsome.trans hconn, hkept.trans hshut, ?_⟩
      have hpost := triple_step ((hrules s.statements op).stepRules hnet) hop fuel s x _
        ⟨htalked, rfl, rfl⟩ hperform
      cases x <;> exact talked_of_leaves hset hpost.1
    · obtain ⟨hnone', hkept⟩ := closed_of_perform hnone hperform
      exact Or.inr ⟨hnone', w, statements, hkept.trans hshut, hparted⟩

/-- **Requests and responses stay in step.** Whatever the frames of the server hold, and
however the operations so far have ended: what has happened on the wire is a list of
turns, each a request and the frame that answers it, so there have been as many frames as
requests, and nothing is to arrive. A client that is closed has asked for it in the end,
and has not waited for an answer. -/
theorem reachable_lockstep (hnet : network.Responsive)
    (hs : (lts (ConnectedTo network)).Reachable s) :
    (∀ conn, s.client.conn = some conn → ∃ turns, conn.stream.Held network turns ∧
      framesRead conn.stream.trace = (requests conn.stream.trace).length) ∧
    ∀ w, s.shut = some w → ∃ turns w₀ casInfo, Wire.Held network turns w₀ ∧
      w = w₀.deliver (writeConClose casInfo) := by
  have htalk : s.InTalk network fun _ _ => True := by
    refine reachable_inTalk (A := fun _ _ _ => True) hnet trivial (fun statements op => ?_)
      (fun _ _ _ _ _ _ => trivial) hs
    constructor <;> simp only [implies_true, and_self]
  obtain ⟨hconn, hshut, htalked⟩ | ⟨hnone, w, _, hshut, turns, w₀, casInfo, hheld, -, rfl⟩ := htalk
  · refine ⟨fun conn hconn => ?_, fun w hw => ?_⟩
    · obtain ⟨turns, hheld, -⟩ := htalked conn hconn
      refine ⟨turns, hheld, ?_⟩
      rw [hheld.trace_eq, framesRead_trace, Turn.requests_trace, List.length_map]
    · rw [hshut] at hw
      cases hw
  · refine ⟨fun conn hconn => ?_, fun w hw => ?_⟩
    · rw [hnone] at hconn
      cases hconn
    · obtain rfl := Option.some.inj (hshut.symm.trans hw)
      exact ⟨turns, w₀, casInfo, hheld, rfl⟩

/-- A server that refuses the first request, and answers every later one with a version. -/
def refusingNetwork : Network :=
  .ofServer fun number _ =>
    if number = 1 then Frame.refusal
    else ⟨(1, 2, 3, 4), [0, 0, 0, 0, 49, 49, 46, 52, 0], by decide⟩

/-- A commit is refused; the ping that follows is answered. -/
theorem reachable_lockstep_afterRefusal : ∃ s₁ s₂ conn,
    perform 0 .commit (start ⟨Wire.new refusingNetwork, (0, 0, 0, 0)⟩ true 7) =
      some (.err (.protocol (.serverError (-4) "no")), s₁) ∧
    perform 0 .ping s₁ = some (.ok (.version "11.4"), s₂) ∧ s₂.client.conn = some conn ∧
    framesRead conn.stream.trace = (requests conn.stream.trace).length := by
  have hreach : (lts (ConnectedTo refusingNetwork)).Reachable _ :=
    ⟨start ⟨Wire.new refusingNetwork, (0, 0, 0, 0)⟩ true 7, [(0, .commit), (0, .ping)],
      ⟨_, _, _, rfl⟩, rfl⟩
  obtain ⟨turns, hheld, hframes⟩ :=
    (reachable_lockstep (Network.ofServer_responsive _) hreach).1 _ rfl
  exact ⟨_, _, _, rfl, rfl, rfl, hframes⟩

end Session

end CubridDriver
