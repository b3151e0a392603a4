import CubridDriver.Head
import CubridDriver.Stale
import CubridDriver.Lib.History

/-!
# The CAS info token

Each response starts with a token, and the next request is to carry it. What a client
sends back is the token of the last response it has *accepted*, and there are two kinds of
responses it does not accept: the ones its parser rejects, an error of the server among
them, and the ones to the closing of a query handle, which it reads and throws away. When
such a response brings a new token, the next request carries an old one.

It is also the only way in which a request comes to carry an old token:
`CubridDriver.Session.reachable_echoes` says that it does not happen, in any run over any
network, as long as no response of these two kinds brings a new token.
-/

namespace CubridDriver

open Prog Connection

/-! ### What has been heard -/

/-- What has been heard on the wire. -/
structure Ear where
  /-- The token of the last frame that has been received. -/
  token : CasInfo
  /-- The length of a frame has been read, and its data is to follow. -/
  inFrame : Bool

/-- One more event. -/
def Ear.next (ear : Ear) : Event → Ear
  | .sent _ => { ear with inFrame := false }
  | .received _ _ bytes =>
      if ear.inFrame then ⟨responseToken (bytes.map Prod.snd), false⟩
      else { ear with inFrame := true }
  | .failed _ => { ear with inFrame := false }

/-- What has been heard by a client whose first response carried the token `casInfo`. -/
def hear (casInfo : CasInfo) (trace : List Event) : Ear := trace.foldl Ear.next ⟨casInfo, false⟩

theorem hear_concat (casInfo : CasInfo) (trace : List Event) (e : Event) :
    hear casInfo (trace ++ [e]) = (hear casInfo trace).next e := List.foldl_concat ..

/-- **Each request carries the token of the last response.** -/
def Echoes (casInfo : CasInfo) (trace : List Event) : Prop :=
  History.Each (fun before e => ∀ request ∈ e.request?,
    requestToken request = (hear casInfo before).token) trace

/-! ### What is accepted -/

/-- What is needed to read rows: the columns, and the type of the statement. -/
abbrev RowFormat : Type := Columns × StatementType

/-- The response to a request with the given function code is accepted, and the client keeps
its token. The response to the closing of a query handle is parsed, but whatever comes of
that its token is not kept. -/
def FunctionCode.Accepts (protoVersion : Int32) (format : Option RowFormat) (resp : Bytes) :
    FunctionCode → Prop
  | .prepareAndExecute => ∃ x, parsePrepareAndExecute resp protoVersion = .ok x
  | .prepare => ∃ x, parsePrepare resp = .ok x
  | .execute => ∃ f ∈ format, ∃ x, parseExecute resp f.1 f.2 protoVersion = .ok x
  | .fetch => ∃ f ∈ format, ∃ x, parseFetch resp f.1 f.2 = .ok x
  | .endTran => ∃ x, parseSimpleResponse resp = .ok x
  | .getDbVersion => ∃ x, parseGetDbVersion resp = .ok x
  | _ => False

/-- The client keeps the token of the response to a request. -/
def Stores (protoVersion : Int32) (format : Option RowFormat) (request data : List UInt8) :
    Prop :=
  ∃ (code : FunctionCode) (resp : Bytes), functionByte request = some code.toU8 ∧
    resp.1 = data ∧ code.Accepts protoVersion format resp

theorem not_stores {protoVersion : Int32} {format : Option RowFormat} {code : FunctionCode}
    {arguments : List UInt8} {casInfo : CasInfo} {resp : Bytes}
    (h : ¬code.Accepts protoVersion format resp) :
    ¬Stores protoVersion format (framed code arguments casInfo) resp.1 := by
  rintro ⟨code', resp', hcode, hresp, haccepts⟩
  rw [functionByte_framed] at hcode
  obtain rfl := FunctionCode.toU8_inj.mp (Option.some.inj hcode)
  obtain rfl := Subtype.ext hresp
  exact h haccepts

/-- How rows are to be read, if it is known from this event: a text has been executed. -/
def Event.format? (protoVersion : Int32) : Event → Option RowFormat
  | .received _ request bytes =>
      if h : functionByte request = some FunctionCode.prepareAndExecute.toU8 ∧
          (bytes.map Prod.snd).length ≤ isizeMax then
        match parsePrepareAndExecute ⟨bytes.map Prod.snd, h.2⟩ protoVersion with
        | .ok (r, _) => some (r.columns, r.statementType)
        | _ => none
      else none
  | _ => none

theorem format?_eq_none {protoVersion : Int32} {number : ℕ} {request : List UInt8}
    {bytes : List TaggedByte}
    (h : functionByte request ≠ some FunctionCode.prepareAndExecute.toU8) :
    (Event.received number request bytes).format? protoVersion = none :=
  dif_neg fun hc => h hc.1

/-- The length of a frame says nothing of rows. -/
theorem format?_eq_none_of_length {protoVersion : Int32} {number : ℕ} {request : List UInt8}
    {bytes : List TaggedByte} (h : bytes.length ≤ 4) :
    (Event.received number request bytes).format? protoVersion = none := by
  rw [Event.format?]
  split
  · split
    -- a response that is accepted has at least a token and a code
    · rename_i hparse
      have hcode := (heads_parsePrepareAndExecute hparse).code_eq
      rw [responseCode, if_neg (by rw [List.length_map]; omega)] at hcode
      cases hcode
    · rfl
  · rfl

theorem format?_eq_some {protoVersion : Int32} {number : ℕ} {request : List UInt8}
    {bytes : List TaggedByte} {resp : Bytes} {r : PrepareAndExecuteResult} {casInfo : CasInfo}
    (hrequest : functionByte request = some FunctionCode.prepareAndExecute.toU8)
    (hresp : resp.1 = bytes.map Prod.snd)
    (hparse : parsePrepareAndExecute resp protoVersion = .ok (r, casInfo)) :
    (Event.received number request bytes).format? protoVersion =
      some (r.columns, r.statementType) := by
  obtain ⟨data, hle⟩ := resp
  obtain rfl : data = bytes.map Prod.snd := hresp
  rw [Event.format?, dif_pos ⟨hrequest, hle⟩, hparse]

/-! ### Following the token -/

/-- What an operation starts with. -/
structure Outset where
  /-- The token of the first response on the connection. -/
  casInfo : CasInfo
  /-- The negotiated protocol version. -/
  protoVersion : Int32
  /-- The statement the operation is about, if it is about any. -/
  target : Option Statement
  /-- What has happened on the wire so far. -/
  past : List Event

namespace Outset

variable (start : Outset)

/-- What has been heard when the events have happened. -/
def heard (evs : List Event) : Ear := hear start.casInfo (start.past ++ evs)

/-- How rows are to be read: as a text that has been executed says, or as the statement
does. -/
def format (evs : List Event) : Option RowFormat :=
  (evs.findSome? (Event.format? start.protoVersion)).or
    (start.target.map fun stmt => (stmt.columns, stmt.statementType))

/-- No response that the client does not accept brings a new token. -/
def Heeds (evs : List Event) : Prop :=
  History.Each (fun before e => ∀ number request bytes, e = .received number request bytes →
    (start.heard before).inFrame →
    Stores start.protoVersion (start.format before) request (bytes.map Prod.snd) ∨
      responseToken (bytes.map Prod.snd) = (start.heard before).token) evs

/-- What has happened satisfies `C`. As far as the responses have been heeded, each request
has carried the token of the last response, and `token` is the one the next request is to
carry. -/
def Tracks (C : List Event → Prop) (token : CasInfo) (w : Wire) : Prop :=
  ∃ evs, w.trace = start.past ++ evs ∧ C evs ∧
    (start.Heeds evs → Echoes start.casInfo (start.past ++ evs) ∧
      token = (start.heard evs).token)

/-- In the middle of an exchange: a request has been sent. -/
def Asks (C : List Event → Prop) (data : List UInt8) (token : CasInfo) (w : Wire) : Prop :=
  w.lastRequest = data ∧
    start.Tracks (fun evs => ∃ evs', evs = evs' ++ [.sent data] ∧ C evs') token w

/-- At the end of an exchange: a frame has been read, which holds `resp`, and the token is
still the one before it. -/
def Hears (C : List Event → Prop) (data : List UInt8) (resp : Bytes) (token : CasInfo)
    (w : Wire) : Prop :=
  ∃ w₀, start.Asks C data token w₀ ∧ 4 ≤ w₀.inbox.length ∧
    resp.1 = ((w₀.inbox.drop 4).take w₀.frameLength).map Prod.snd ∧
    w = (w₀.take 4).take w₀.frameLength

variable {start} {C : List Event → Prop} {data : List UInt8} {token : CasInfo} {w : Wire}

theorem heard_concat (evs : List Event) (e : Event) :
    start.heard (evs ++ [e]) = (start.heard evs).next e := by
  rw [heard, ← List.append_assoc, hear_concat, heard]

theorem format_concat {e : Event} (evs : List Event) (h : e.format? start.protoVersion = none) :
    start.format (evs ++ [e]) = start.format evs := by
  rw [format, List.findSome?_append, List.findSome?_singleton, h, Option.or_none, format]

theorem Heeds.of_append {evs evs' : List Event} (h : start.Heeds (evs ++ evs')) :
    start.Heeds evs := History.Each.of_append h

/-- An event that is not the sending of a request carries no token. -/
theorem echoes_concat {casInfo : CasInfo} {trace : List Event} {e : Event}
    (he : e.request? = none) (h : Echoes casInfo trace) : Echoes casInfo (trace ++ [e]) :=
  History.each_concat.mpr ⟨h, fun request hrequest => by rw [he] at hrequest; cases hrequest⟩

/-- Nothing has happened. -/
theorem Tracks.of_trace_eq {w' : Wire} (h : start.Tracks C token w) (htrace : w'.trace = w.trace) :
    start.Tracks C token w' := by
  obtain ⟨evs, hevs, htracks⟩ := h
  exact ⟨evs, htrace.trans hevs, htracks⟩

theorem Tracks.mono {D : List Event → Prop} (h : start.Tracks C token w)
    (hCD : ∀ evs, C evs → D evs) : start.Tracks D token w := by
  obtain ⟨evs, htrace, hC, htracks⟩ := h
  exact ⟨evs, htrace, hCD evs hC, htracks⟩

/-- What happens is not the sending of a request, and no token is heard. -/
theorem Tracks.concat {w' : Wire} {e : Event} (h : start.Tracks C token w)
    (htrace : w'.trace = w.trace ++ [e]) (he : e.request? = none)
    (hnext : ∀ evs, C evs → ((start.heard evs).next e).token = (start.heard evs).token) :
    start.Tracks (fun _ => True) token w' := by
  obtain ⟨evs, hevs, hC, htracks⟩ := h
  refine ⟨evs ++ [e], by rw [htrace, hevs, List.append_assoc], trivial, fun hheeds => ?_⟩
  obtain ⟨hechoes, htoken⟩ := htracks hheeds.of_append
  rw [← List.append_assoc]
  exact ⟨echoes_concat he hechoes, by rw [heard_concat, hnext evs hC, htoken]⟩

/-- **A request is sent** with the token of the last response. -/
theorem Tracks.deliver (h : start.Tracks C token w) (hdata : requestToken data = token) :
    start.Asks C data token (w.deliver data) := by
  obtain ⟨evs, htrace, hC, htracks⟩ := h
  refine ⟨Wire.lastRequest_deliver w data, evs ++ [.sent data], ?_, ⟨evs, rfl, hC⟩,
    fun hheeds => ?_⟩
  · rw [← List.append_assoc, ← htrace]
    rfl
  · obtain ⟨hechoes, htoken⟩ := htracks hheeds.of_append
    refine ⟨?_, by rw [heard_concat, htoken]; rfl⟩
    rw [← List.append_assoc]
    refine History.each_concat.mpr ⟨hechoes, fun request hrequest => ?_⟩
    obtain rfl := Option.mem_some.mp hrequest
    rw [hdata, htoken, heard]

/-- **Nothing more is read** when the frame does not arrive in full. -/
theorem Asks.fail {w' : Wire} (h : start.Asks C data token w) (hw : w' = w ∨ w' = w.take 4)
    (left : List TaggedByte) : start.Tracks (fun _ => True) token (w'.fail left) := by
  obtain ⟨-, htracks⟩ := h
  rcases hw with rfl | rfl
  · exact htracks.concat rfl rfl fun _ _ => rfl
  -- the length of the frame is not taken for its data
  · have htake : start.Tracks (fun _ => True) token (w.take 4) := by
      refine htracks.concat rfl rfl ?_
      rintro _ ⟨evs, rfl, -⟩
      rw [heard_concat]
      rfl
    exact htake.concat rfl rfl fun _ _ => rfl

/-- What happens when a frame is read in answer to a request. -/
def answered (data : List UInt8) (number : ℕ) (head body : List TaggedByte) : List Event :=
  [.sent data, .received number data head, .received number data body]

section Answered

variable {number : ℕ} {head body : List TaggedByte} (evs : List Event)

theorem append_answered : evs ++ answered data number head body =
    evs ++ [.sent data] ++ [.received number data head] ++ [.received number data body] := by
  rw [List.append_assoc, List.append_assoc]
  rfl

theorem heard_answered : start.heard (evs ++ answered data number head body) =
    ⟨responseToken (body.map Prod.snd), false⟩ := by
  rw [append_answered, heard_concat, heard_concat, heard_concat]
  rfl

/-- Before the data of the frame is read. -/
theorem format_asked (hhead : head.length ≤ 4) :
    start.format (evs ++ [.sent data] ++ [.received number data head]) = start.format evs := by
  rw [format_concat _ (format?_eq_none_of_length hhead), format_concat _ rfl]

theorem format_answered (hhead : head.length ≤ 4)
    (hdata : functionByte data ≠ some FunctionCode.prepareAndExecute.toU8) :
    start.format (evs ++ answered data number head body) = start.format evs := by
  rw [append_answered, format_concat _ (format?_eq_none hdata), format_asked _ hhead]

/-- The frame answers the execution of a text. -/
theorem format_opened {resp : Bytes} {r : PrepareAndExecuteResult} {casInfo : CasInfo}
    (hhead : head.length ≤ 4) (hresp : resp.1 = body.map Prod.snd)
    (hdata : functionByte data = some FunctionCode.prepareAndExecute.toU8)
    (hparse : parsePrepareAndExecute resp start.protoVersion = .ok (r, casInfo)) :
    start.format (answered data number head body) = some (r.columns, r.statementType) := by
  have hfind : (answered data number head body).findSome? (Event.format? start.protoVersion) =
      some (r.columns, r.statementType) := by
    rw [answered, List.findSome?_cons, List.findSome?_cons, List.findSome?_cons,
      format?_eq_none_of_length hhead, format?_eq_some hdata hresp hparse]
    rfl
  rw [format, hfind]
  rfl

end Answered

/-- A frame that is accepted is heeded. -/
theorem heeds_answered {number : ℕ} {head body : List TaggedByte} (hhead : head.length ≤ 4)
    (hstores : Stores start.protoVersion (start.format []) data (body.map Prod.snd)) :
    start.Heeds (answered data number head body) := by
  refine History.each_concat (l := [Event.sent data, .received number data head]).mpr ⟨?_, ?_⟩
  · refine History.each_concat (l := [Event.sent data]).mpr ⟨?_, ?_⟩
    · exact History.each_concat (l := []).mpr ⟨History.each_nil, nofun⟩
    -- the length comes before the frame
    · rintro _ _ _ - hframe
      rw [← List.nil_append [Event.sent data], heard_concat] at hframe
      cases hframe
  · rintro _ _ _ heq -
    obtain ⟨rfl, rfl, rfl⟩ := Event.received.inj heq
    refine Or.inl ?_
    have hformat : start.format ([.sent data] ++ [.received number data head]) = start.format [] :=
      format_asked [] hhead
    exact hformat ▸ hstores

/-- **A frame has been read**, and the client accepts it, or it brings no new token. -/
theorem Hears.events {resp : Bytes} (h : start.Hears C data resp token w) :
    ∃ evs number head body, w.trace = start.past ++ (evs ++ answered data number head body) ∧
      C evs ∧ head.length ≤ 4 ∧ resp.1 = body.map Prod.snd ∧
      (start.Heeds (evs ++ answered data number head body) →
        Echoes start.casInfo (start.past ++ (evs ++ answered data number head body)) ∧
        (Stores start.protoVersion (start.format evs) data resp.1 ∨
          responseToken resp.1 = token)) := by
  obtain ⟨w₀, ⟨hlast, _, htrace, ⟨evs, rfl, hC⟩, htracks⟩, hlen, hresp, rfl⟩ := h
  have hhead : (w₀.inbox.take 4).length ≤ 4 := List.length_take_le _ _
  refine ⟨evs, w₀.number, w₀.inbox.take 4, (w₀.inbox.drop 4).take w₀.frameLength, ?_, hC, hhead,
    hresp, fun hheeds => ?_⟩
  · rw [Wire.trace_take_take, htrace, hlast, List.append_assoc, List.append_assoc]
    rfl
  · rw [append_answered] at hheeds ⊢
    obtain ⟨hbefore, hdata⟩ := History.each_concat.mp hheeds
    obtain ⟨hechoes, htoken⟩ := htracks hbefore.of_append
    refine ⟨?_, ?_⟩
    · rw [← List.append_assoc, ← List.append_assoc]
      exact echoes_concat rfl (echoes_concat rfl hechoes)
    · have hframe := hdata _ _ _ rfl (by rw [heard_concat, heard_concat]; rfl)
      rw [format_asked _ hhead, ← hresp] at hframe
      refine hframe.imp_right fun hsame => ?_
      rw [hsame, htoken, heard_concat, heard_concat]
      rfl

/-- **A response that is not accepted** leaves the token as it was. -/
theorem Hears.rejected {resp : Bytes} (h : start.Hears C data resp token w)
    (hreject : ∀ evs, C evs → ¬Stores start.protoVersion (start.format evs) data resp.1) :
    start.Tracks (fun _ => True) token w := by
  obtain ⟨evs, number, head, body, htrace, hC, -, hresp, hframe⟩ := h.events
  refine ⟨_, htrace, trivial, fun hheeds => ?_⟩
  obtain ⟨hechoes, hframe⟩ := hframe hheeds
  refine ⟨hechoes, ?_⟩
  rw [heard_answered, ← hresp]
  exact (hframe.resolve_left (hreject evs hC)).symm

/-- **A response that is accepted** brings the token. -/
theorem Hears.accepted {resp : Bytes} {D : List Event → Prop}
    (h : start.Hears C data resp token w)
    (hD : ∀ evs number head body, C evs → head.length ≤ 4 → resp.1 = body.map Prod.snd →
      D (evs ++ answered data number head body)) :
    start.Tracks D (responseToken resp.1) w := by
  obtain ⟨evs, number, head, body, htrace, hC, hhead, hresp, hframe⟩ := h.events
  refine ⟨_, htrace, hD evs number head body hC hhead hresp, fun hheeds => ?_⟩
  exact ⟨(hframe hheeds).1, by rw [heard_answered, hresp]⟩

end Outset

/-! ### Rules for the parts of an operation -/

section Socket

variable {τ α : Type} [Socket τ]

omit [Socket τ] in
/-- What a program does to the socket, when it leaves the token alone. -/
theorem triple_keepsToken {p : Prog (Connection τ) Error α}
    (hkeep : ∀ token, Triple (fun c => c.casInfo = token) p (fun _ c => c.casInfo = token)
      fun c => c.casInfo = token)
    {R E : CasInfo → τ → Prop} {Q : α → CasInfo → τ → Prop}
    (h : ∀ token, Triple (fun c => R token c.stream) p (fun a c => Q a token c.stream)
      fun c => E token c.stream) :
    Triple (fun c => R c.casInfo c.stream) p (fun a c => Q a c.casInfo c.stream)
      fun c => E c.casInfo c.stream := by
  intro conn x conn' hR hx
  have hsame : conn'.casInfo = conn.casInfo := by
    have hpost := hkeep conn.casInfo conn x conn' rfl hx
    cases x <;> exact hpost
  have hpost := h conn.casInfo conn x conn' hR hx
  rw [← hsame] at hpost
  cases x <;> exact hpost

omit [Socket τ] in
/-- What only touches the socket keeps the token. -/
theorem keepsToken_of_stream {p : Prog (Connection τ) Error α}
    (h : ∀ conn, ∃ x stream, p conn = some (x, { conn with stream })) (token : CasInfo) :
    Triple (fun c => c.casInfo = token) p (fun _ c => c.casInfo = token)
      fun c => c.casInfo = token := by
  intro conn x conn' htoken hx
  obtain ⟨y, stream, hy⟩ := h conn
  obtain ⟨rfl, rfl⟩ := Prod.mk.inj (Option.some.inj (hy.symm.trans hx))
  cases y <;> exact htoken

theorem sendFramed_token (data : List UInt8) (token : CasInfo) :
    Triple (fun c : Connection τ => c.casInfo = token) (sendFramed data)
      (fun _ c => c.casInfo = token) fun c => c.casInfo = token :=
  keepsToken_of_stream (fun _ => ⟨_, _, rfl⟩) token

theorem readExactBytes_token (count : ℕ) (token : CasInfo) :
    Triple (fun c : Connection τ => c.casInfo = token) (readExactBytes count)
      (fun _ c => c.casInfo = token) fun c => c.casInfo = token :=
  keepsToken_of_stream (fun _ => ⟨_, _, rfl⟩) token

theorem recvFramed_token (token : CasInfo) :
    Triple (fun c : Connection τ => c.casInfo = token) recvFramed
      (fun _ c => c.casInfo = token) fun c => c.casInfo = token :=
  triple_bind (readExactBytes_token 4 token) fun _ =>
    triple_bind (readExactBytes_token _ token) fun _ => triple_pure fun _ hc => hc

end Socket

namespace Outset

variable (start : Outset)

/-- `Outset.Tracks`, of a connection. -/
def On (C : List Event → Prop) (conn : Connection Wire) : Prop :=
  start.Tracks C conn.casInfo conn.stream

/-- `Outset.Tracks`, of a client, as long as it is connected. -/
def Tracked (C : List Event → Prop) : Client Wire → Prop := Client.Over (start.On C)

variable {start} {C : List Event → Prop}

theorem triple_sendFramed {data : List UInt8} {conn : Connection Wire}
    (hdata : requestToken data = conn.casInfo) :
    Triple (fun c => start.On C c ∧ c = conn) (sendFramed data)
      (fun _ c => start.Asks C data c.casInfo c.stream) (start.On fun _ => True) := by
  refine triple_pre (R := fun c => start.On C c ∧ c.casInfo = conn.casInfo)
    (triple_keepsToken (R := fun token w => start.Tracks C token w ∧ token = conn.casInfo)
      (E := start.Tracks fun _ => True) (sendFramed_token data) fun token => ?_)
    fun c hc => ⟨hc.1, congrArg _ hc.2⟩
  refine Wire.triple_sendFramed (R := fun w => start.Tracks C token w ∧ token = conn.casInfo)
    (fun c hc => hc) (fun w hw => ?_) fun w w' hw htrace _ => ?_
  · exact hw.1.deliver (hdata.trans hw.2.symm)
  · exact (hw.1.of_trace_eq htrace).mono fun _ _ => trivial

theorem triple_recvFramed (data : List UInt8) :
    Triple (fun c => start.Asks C data c.casInfo c.stream) recvFramed
      (fun resp c => start.Hears C data resp c.casInfo c.stream) (start.On fun _ => True) := by
  refine triple_keepsToken (E := start.Tracks fun _ => True)
    (Q := fun resp token w => start.Hears C data resp token w) recvFramed_token fun token => ?_
  refine Wire.triple_recvFramed (R := start.Asks C data token)
    (fun w resp hw hlen _ hresp => ⟨w, hw, hlen, hresp, rfl⟩)
    fun w w' k hw hfail => hw.fail hfail _

/-- **The rule of the exchange.** The request carries the token; the response is parsed for
one, and is accepted if the parser accepts it. -/
theorem triple_exchange {α : Type} {request : CasInfo → Outcome Error (List UInt8)}
    {parse : Bytes → Outcome ProtocolError (α × CasInfo)} (code : FunctionCode)
    {D : α → List Event → Prop}
    (hrequest : ∀ casInfo data, request casInfo = .ok data →
      ∃ arguments, data = framed code arguments casInfo)
    (hparse : ∀ resp a casInfo, parse resp = .ok (a, casInfo) → casInfo = responseToken resp.1)
    (haccepts : ∀ evs resp, C evs → code.Accepts start.protoVersion (start.format evs) resp →
      ∃ x, parse resp = .ok x)
    (hD : ∀ evs arguments casInfo number head body resp x, C evs → head.length ≤ 4 →
      resp.1 = body.map Prod.snd → parse resp = .ok x →
      D x.1 (evs ++ answered (framed code arguments casInfo) number head body)) :
    Triple (start.Tracked C) (Client.onConn (exchange request parse))
      (fun a => start.Tracked (D a)) (start.Tracked fun _ => True) := by
  have hreject : ∀ resp (conn : Connection Wire), (∀ x, parse resp ≠ .ok x) →
      (∃ arguments casInfo, start.Hears C (framed code arguments casInfo) resp conn.casInfo
        conn.stream) → start.On (fun _ => True) conn := by
    rintro resp conn hfail ⟨arguments, casInfo, hhears⟩
    refine hhears.rejected fun evs hC => not_stores fun h => ?_
    obtain ⟨x, hx⟩ := haccepts evs resp hC h
    exact hfail x hx
  refine triple_onConn (ensures_exchange
    (S := fun data c => (∃ arguments casInfo, data = framed code arguments casInfo) ∧
      start.Asks C data c.casInfo c.stream)
    (T := fun resp c => ∃ arguments casInfo,
      start.Hears C (framed code arguments casInfo) resp c.casInfo c.stream)
    ?_ ?_ ?_ ?_ ?_ ?_ ?_)
  · intro conn data hdata
    obtain ⟨arguments, rfl⟩ := hrequest _ _ hdata
    exact triple_post (triple_sendFramed (requestToken_framed _ _ _))
      fun _ _ hc => ⟨⟨arguments, _, rfl⟩, hc⟩
  · intro data
    refine ensures_assume ?_
    rintro ⟨arguments, casInfo, rfl⟩
    exact triple_post (triple_recvFramed _) fun _ _ hc => ⟨arguments, casInfo, hc⟩
  · exact fun conn _ _ hc => Tracks.mono hc fun _ _ => trivial
  · exact fun conn _ hc => Tracks.mono hc fun _ _ => trivial
  · exact fun resp conn e he => hreject resp conn fun x hx => by cases he.symm.trans hx
  · exact fun resp conn he => hreject resp conn fun x hx => by cases he.symm.trans hx
  · rintro resp conn a casInfo' hx ⟨arguments, casInfo, hhears⟩
    have htoken := hparse resp a casInfo' hx
    change start.Tracks (D a) casInfo' conn.stream
    rw [htoken]
    exact hhears.accepted fun evs number head body hC hhead hresp =>
      hD evs arguments casInfo number head body resp (a, casInfo') hC hhead hresp hx

/-- **The rule of closing a query handle.** The response is not accepted. -/
theorem triple_closeQueryHandle (handle : Int32) :
    Triple (start.Tracked C) (Client.closeQueryHandle handle)
      (fun _ => start.Tracked fun _ => True) (start.Tracked fun _ => True) := by
  refine CubridDriver.triple_closeQueryHandle (S := fun c => ∃ casInfo,
    start.Asks C (writeCloseReqHandle handle casInfo) c.casInfo c.stream) ?_ ?_
  · intro conn
    exact triple_post (triple_sendFramed (requestToken_framed _ _ _))
      fun _ _ hc => ⟨conn.casInfo, hc⟩
  · rintro conn x conn' ⟨casInfo, hasks⟩ hx
    refine triple_post (triple_recvFramed (C := C) (writeCloseReqHandle handle casInfo))
      (fun resp c hc => ?_) conn x conn' hasks hx
    exact hc.rejected fun _ _ => not_stores not_false

/-! ### Rules for the operations -/

/-- Nothing has been sent yet. -/
def Begins (start : Outset) (client : Client Wire) : Prop :=
  client.protoVersion = start.protoVersion ∧ start.Tracked (· = []) client

/-- It is known how to read the rows. -/
def Reads (start : Outset) (cursor : Cursor) : Client Wire → Prop :=
  start.Tracked fun evs => start.format evs = some (cursor.columns, cursor.stmtType)

theorem begins_tracked {client : Client Wire} (h : start.Begins client) :
    start.Tracked (fun _ => True) client :=
  fun conn hconn => Tracks.mono (h.2 conn hconn) fun _ _ => trivial

theorem reads_tracked {cursor : Cursor} {client : Client Wire} (h : start.Reads cursor client) :
    start.Tracked (fun _ => True) client :=
  fun conn hconn => Tracks.mono (h conn hconn) fun _ _ => trivial

/-- An exchange that is the first one, and the last. -/
theorem triple_single {α : Type}
    {request : CasInfo → Outcome Error (List UInt8)}
    {parse : Bytes → Outcome ProtocolError (α × CasInfo)} (code : FunctionCode)
    (hrequest : ∀ casInfo data, request casInfo = .ok data →
      ∃ arguments, data = framed code arguments casInfo)
    (hparse : ∀ resp a casInfo, parse resp = .ok (a, casInfo) → casInfo = responseToken resp.1)
    (haccepts : ∀ format resp, code.Accepts start.protoVersion format resp →
      ∃ x, parse resp = .ok x) :
    Triple start.Begins (Client.onConn (exchange request parse))
      (fun _ => start.Tracked fun _ => True) (start.Tracked fun _ => True) :=
  triple_pre (triple_exchange code (D := fun _ _ => True) hrequest hparse
    (fun _ resp _ => haccepts _ resp) fun _ _ _ _ _ _ _ _ _ _ _ _ => trivial) fun _ hc => hc.2

theorem triple_prepareAndExecute (sql : String) (params : List Value) :
    Triple start.Begins (Client.prepareAndExecute sql params) (fun r => start.Reads r.cursor)
      (start.Tracked fun _ => True) := by
  -- the response is parsed with the protocol version of the client
  refine ensures_get_bind fun client ⟨hproto, _⟩ => ?_
  refine triple_pre (triple_exchange .prepareAndExecute
    (D := fun (r : PrepareAndExecuteResult) evs =>
      start.format evs = some (r.columns, r.statementType)) ?_ ?_ ?_ ?_) fun _ hc => hc.2
  · exact fun _ _ h => ⟨_, (Outcome.ok.inj h).symm⟩
  · exact fun resp a casInfo h => (heads_parsePrepareAndExecute h).token_eq
  · exact fun _ resp _ h => hproto ▸ h
  · rintro _ arguments casInfo number head body resp ⟨r, casInfo'⟩ rfl hhead hresp hx
    exact format_opened hhead hresp (functionByte_framed _ _ _) (hproto ▸ hx)

theorem triple_executeHandle {stmt : Statement} (htarget : start.target = some stmt) :
    Triple start.Begins stmt.executeHandle (fun _ => start.Reads stmt.cursor)
      (start.Tracked fun _ => True) := by
  have hformat : start.format [] = some (stmt.columns, stmt.statementType) := by
    rw [format, htarget]
    rfl
  refine ensures_get_bind fun client ⟨hproto, _⟩ => ?_
  refine triple_pre (triple_exchange .execute
    (D := fun _ evs => start.format evs = some (stmt.columns, stmt.statementType)) ?_ ?_ ?_ ?_)
    fun _ hc => hc.2
  · exact fun _ _ h => ⟨_, (Outcome.ok.inj h).symm⟩
  · exact fun resp a casInfo h => token_parseExecute h
  · rintro _ resp rfl ⟨f, hf, h⟩
    obtain rfl := Option.some.inj (hformat.symm.trans hf)
    exact hproto ▸ h
  · rintro _ arguments casInfo number head body resp x rfl hhead - -
    rw [format_answered [] hhead (by rw [functionByte_framed]; decide), hformat]

theorem triple_fetch (cursor : Cursor) (fetched : Int32) :
    Triple (start.Reads cursor) (cursor.fetch fetched) (fun _ => start.Reads cursor)
      (start.Tracked fun _ => True) := by
  refine triple_exchange .fetch
    (D := fun _ evs => start.format evs = some (cursor.columns, cursor.stmtType)) ?_ ?_ ?_ ?_
  · intro casInfo data h
    obtain ⟨_, -, hdata⟩ := Outcome.bind_eq_ok.mp h
    exact ⟨_, (Outcome.ok.inj hdata).symm⟩
  · exact fun resp a casInfo h => token_parseFetch h
  · rintro evs resp hformat ⟨f, hf, h⟩
    obtain rfl := Option.some.inj (hformat.symm.trans hf)
    exact h
  · rintro evs arguments casInfo number head body resp x hformat hhead - -
    rw [format_answered evs hhead (by rw [functionByte_framed]; decide), hformat]

/-- **What an operation does**, by its parts. -/
theorem stepRules (start : Outset) :
    Session.StepRules start.target start.Begins start.Reads (start.Tracked fun _ => True)
      (fun _ => start.Tracked fun _ => True) (start.Tracked fun _ => True) where
  prepareAndExecute := triple_prepareAndExecute
  executeHandle _ htarget _ := triple_executeHandle htarget
  fetch := triple_fetch
  release _ _ _ := triple_closeQueryHandle _
  leave _ _ := reads_tracked
  prepare sql := by
    refine ensures_get_bind fun client _ => triple_bind
      (triple_single .prepare ?_ ?_ fun _ _ h => h)
      fun _ => triple_pure fun _ hc => hc
    · exact fun _ _ h => ⟨_, (Outcome.ok.inj h).symm⟩
    · exact fun resp a casInfo h => (heads_parsePrepare h).token_eq
  endTran tranType := by
    refine triple_single .endTran ?_ ?_ ?_
    · exact fun _ _ h => ⟨_, (Outcome.ok.inj h).symm⟩
    · intro resp a casInfo h
      obtain ⟨token, htoken, heq⟩ := Outcome.bind_eq_ok.mp h
      obtain ⟨-, rfl⟩ := Prod.mk.inj (Outcome.ok.inj heq)
      exact token_parseSimpleResponse htoken
    · rintro _ resp ⟨token, htoken⟩
      exact ⟨((), token), Outcome.bind_eq_ok.mpr ⟨token, htoken, rfl⟩⟩
  ping := by
    refine ensures_get_bind fun client _ =>
      triple_single .getDbVersion ?_ ?_ fun _ _ h => h
    · exact fun _ _ h => ⟨_, (Outcome.ok.inj h).symm⟩
    · exact fun resp a casInfo h => token_parseGetDbVersion h
  closeHandle _ _ _ _ := triple_pre (triple_closeQueryHandle _) fun _ hc => hc.2
  stay _ := begins_tracked
  setAutoCommit _ _ hc := begins_tracked hc

end Outset

/-! ### Sessions -/

namespace Session

/-- A session with a client that has just been connected, by a response with the token
`casInfo`. -/
def ConnectedBy (casInfo : CasInfo) (s : Session Wire) : Prop :=
  ∃ network autoCommit protoVersion,
    s = start ⟨Wire.new network, casInfo⟩ autoCommit protoVersion

/-- What the next operation starts with. -/
def outset (casInfo : CasInfo) (s : Session Wire) (op : Operation) : Outset :=
  ⟨casInfo, s.client.protoVersion, op.target s.statements, s.trace⟩

/-- In this step no response that the client does not accept has brought a new token. -/
def Heeded (casInfo : CasInfo) (s : Session Wire) (call : ℕ × Operation) (s' : Session Wire) :
    Prop :=
  (s.outset casInfo call.2).Heeds (s'.trace.drop s.trace.length)

/-- Each request has carried the token of the last response, and the next one will. -/
def Current (casInfo : CasInfo) (s : Session Wire) : Prop :=
  Echoes casInfo s.trace ∧
    ∀ conn, s.client.conn = some conn → conn.casInfo = (hear casInfo s.trace).token

variable {casInfo : CasInfo} {s s' : Session Wire}

/-- **Closing the client** sends one more request. -/
theorem Current.closeClient (h : s.Current casInfo) : s.closeClient.Current casInfo := by
  obtain ⟨hechoes, htoken⟩ := h
  refine ⟨?_, fun conn hconn => ?_⟩
  · rcases trace_closeClient s with hsame | ⟨conn, hconn, hsent⟩
    · exact hsame ▸ hechoes
    · rw [hsent]
      refine History.each_concat.mpr ⟨hechoes, fun request hrequest => ?_⟩
      obtain rfl := Option.mem_some.mp hrequest
      rw [writeConClose, requestToken_framed, htoken conn hconn]
  · rw [conn_closeClient] at hconn
    cases hconn

/-- **A step**, in which the responses have been heeded. -/
theorem Current.perform (call : ℕ × Operation) {x : Outcome Error Reply} (h : s.Current casInfo)
    (hx : Session.perform call.1 call.2 s = some (x, s')) (hheeded : Heeded casInfo s call s') :
    s'.Current casInfo := by
  by_cases hop : call.2 = .close
  · rw [hop] at hx
    obtain ⟨-, rfl⟩ := Prod.mk.inj (Option.some.inj hx)
    exact h.closeClient
  cases hconn : s.client.conn with
  | none =>
    obtain ⟨hconn', htrace⟩ := trace_of_closed hconn hx
    refine ⟨htrace ▸ h.1, fun conn hc => ?_⟩
    rw [hconn'] at hc
    cases hc
  | some conn =>
    have hbegins : (s.outset casInfo call.2).Begins s.client := by
      refine ⟨rfl, fun c hc => ⟨[], ?_, rfl, fun _ => ?_⟩⟩
      · rw [List.append_nil]
        exact (trace_of_conn hc).symm
      · rw [Outset.heard, List.append_nil]
        exact ⟨h.1, h.2 c hc⟩
    have hpost := triple_step (s.outset casInfo call.2).stepRules hop call.1 s x s'
      ⟨hbegins, rfl, rfl⟩ hx
    have htracked : (s.outset casInfo call.2).Tracked (fun _ => True) s'.client := by
      cases x <;> exact hpost.1.client
    have hsome := (conn_of_perform hop hx).1
    rw [hconn] at hsome
    obtain ⟨conn', hconn'⟩ := Option.isSome_iff_exists.mp hsome
    obtain ⟨evs, htrace, -, htracks⟩ := htracked conn' hconn'
    rw [← trace_of_conn hconn'] at htrace
    rw [Heeded, htrace] at hheeded
    change (s.outset casInfo call.2).Heeds ((s.trace ++ evs).drop s.trace.length) at hheeded
    rw [List.drop_left] at hheeded
    obtain ⟨hechoes, htoken⟩ := htracks hheeded
    refine ⟨htrace ▸ hechoes, fun c hc => ?_⟩
    obtain rfl := Option.some.inj (hconn'.symm.trans hc)
    rw [htoken, htrace]
    rfl

/-- **The token is always the latest**, over any network and in any run in which no response
that the client does not accept brings a new token: each request carries the token of the
last response. -/
theorem reachable_echoes (h : (lts (ConnectedBy casInfo)).ReachableBy (Heeded casInfo) s) :
    Echoes casInfo s.trace := by
  have hcurrent : s.Current casInfo := by
    refine h.invariant ?_ ?_
    · rintro _ ⟨network, autoCommit, protoVersion, rfl⟩
      refine ⟨History.each_nil, fun conn hconn => ?_⟩
      obtain rfl := Option.some.inj hconn
      rfl
    · intro s call s' hs hstep hheeded
      obtain ⟨x, hperform⟩ := step_eq_ok.mp hstep
      exact hs.perform call hperform hheeded
  exact hcurrent.1

/-! ### A server that changes its token

It changes it after the first response, which assigns the handle 1. -/

namespace ChangedToken

/-- The server. -/
def network : Network :=
  .ofServer fun number _ =>
    if number = 1 then
      ⟨(1, 1, 1, 1), [0, 0, 0, 1, 0, 0, 0, 0, 20, 0, 0, 0, 0, 0, 0, 0, 0, 0], by decide⟩
    else ⟨(2, 2, 2, 2), [0, 0, 0, 0, 49, 0], by decide⟩

/-- A session with the server. -/
def session : Session Wire := start ⟨Wire.new network, (0, 0, 0, 0)⟩ true 7

/-- The data of the first response. -/
def prepared : Bytes :=
  ⟨[1, 1, 1, 1, 0, 0, 0, 1, 0, 0, 0, 0, 20, 0, 0, 0, 0, 0, 0, 0, 0, 0], by decide⟩

/-- The data of the other ones. -/
def version : Bytes := ⟨[2, 2, 2, 2, 0, 0, 0, 0, 49, 0], by decide⟩

/-- What happens when a statement is prepared. -/
def preparing : List Event :=
  Outset.answered (writePrepare "" true (0, 0, 0, 0)) 1 ([0, 0, 0, 18].map fun b => (1, b))
    (prepared.1.map fun b => (1, b))

/-- What happens when the server is then asked for its version. -/
def pinging : List Event :=
  Outset.answered (writeGetDbVersion true (1, 1, 1, 1)) 2 ([0, 0, 0, 6].map fun b => (2, b))
    (version.1.map fun b => (2, b))

theorem trace_prepare :
    (perform 0 (.prepare "") session).map (fun x => x.2.trace) = some preparing := by
  decide +kernel

theorem trace_ping : ((perform 0 (.prepare "") session).bind fun x => perform 0 .ping x.2).map
    (fun x => x.2.trace) = some (preparing ++ pinging) := by
  decide +kernel

/-- The first response is accepted. -/
theorem heeds_preparing {outset : Outset} : outset.Heeds preparing := by
  have hread : ∃ x, parsePrepare prepared = .ok x := by decide +kernel
  exact Outset.heeds_answered (by decide)
    ⟨.prepare, prepared, functionByte_framed _ _ _, by simp [prepared], hread⟩

/-- The second one, too. -/
theorem heeds_pinging {outset : Outset} : outset.Heeds pinging := by
  have hread : ∃ x, parseGetDbVersion version = .ok x := by decide +kernel
  exact Outset.heeds_answered (by decide)
    ⟨.getDbVersion, version, functionByte_framed _ _ _, by simp [version], hread⟩

end ChangedToken

open ChangedToken in
/-- When the statement is closed in between, the last request carries the token of the first
response, not of the second one. -/
theorem not_echoes_closing : ∃ s, (lts (ConnectedBy (0, 0, 0, 0))).run session
      [(0, .prepare ""), (0, .stmtClose 0), (0, .ping)] = .ok s ∧
    ¬Echoes (0, 0, 0, 0) s.trace := by
  have htokens : (((lts (ConnectedBy (0, 0, 0, 0))).run session
      [(0, .prepare ""), (0, .stmtClose 0), (0, .ping)]).toOption.bind fun s =>
        (s.trace[6]?.bind Event.request?).map fun request =>
          (requestToken request, (hear (0, 0, 0, 0) (s.trace.take 6)).token)) =
      some ((1, 1, 1, 1), (2, 2, 2, 2)) := by
    decide +kernel
  obtain ⟨s, hrun, htokens⟩ := Option.bind_eq_some_iff.mp htokens
  obtain ⟨request, hrequest, htokens⟩ := Option.map_eq_some_iff.mp htokens
  obtain ⟨e, he, hrequest⟩ := Option.bind_eq_some_iff.mp hrequest
  refine ⟨s, Outcome.toOption_eq_some.mp hrun, fun hechoes => ?_⟩
  have hsame := History.Each.getElem? hechoes he request hrequest
  obtain ⟨hold, hnew⟩ := Prod.mk.inj htokens
  rw [hold, hnew] at hsame
  cases hsame

open ChangedToken in
/-- A statement is prepared, and the server is asked for its version; both responses are
accepted, and the second request carries the token of the first one. -/
theorem reachable_echoes_ping : ∃ s,
    (lts (ConnectedBy (0, 0, 0, 0))).run session [(0, .prepare ""), (0, .ping)] = .ok s ∧
    (requests s.trace).map requestToken = [(0, 0, 0, 0), (1, 1, 1, 1)] ∧
    Echoes (0, 0, 0, 0) s.trace := by
  obtain ⟨⟨x₁, s₁⟩, hperform₁, htrace₁⟩ := Option.map_eq_some_iff.mp trace_prepare
  obtain ⟨⟨x₂, s₂⟩, hperform₂, htrace₂⟩ := Option.map_eq_some_iff.mp trace_ping
  rw [hperform₁, Option.bind_some] at hperform₂
  have hstep₁ : (lts (ConnectedBy (0, 0, 0, 0))).step session (0, .prepare "") = .ok s₁ := by
    simp only [lts, hperform₁]
  have hstep₂ : (lts (ConnectedBy (0, 0, 0, 0))).step s₁ (0, .ping) = .ok s₂ := by
    simp only [lts, hperform₂]
  have hheeded₁ : Heeded (0, 0, 0, 0) session (0, .prepare "") s₁ := by
    rw [Heeded, htrace₁]
    exact heeds_preparing
  have hheeded₂ : Heeded (0, 0, 0, 0) s₁ (0, .ping) s₂ := by
    rw [Heeded, htrace₁, htrace₂, List.drop_left]
    exact heeds_pinging
  refine ⟨s₂, Lts.run_cons_eq_ok.mpr ⟨s₁, hstep₁, Lts.run_cons_eq_ok.mpr ⟨s₂, hstep₂, rfl⟩⟩, ?_,
    reachable_echoes (.step (.step (.init ⟨_, _, _, rfl⟩) hstep₁ hheeded₁) hstep₂ hheeded₂)⟩
  rw [htrace₂]
  decide

end Session

end CubridDriver
