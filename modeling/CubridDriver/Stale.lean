import CubridDriver.Session
import CubridDriver.Wire

/-!
# Stale responses

A failed receive leaves the client with its connection, and the response, which may
still arrive, is then the first thing the next operation reads.
`CubridDriver.Session.readsStale_iff` says exactly when this goes wrong: an operation
that returns a result has read it from the response to an earlier request if and only if
bytes of an earlier response were to arrive when it was called. So there is no such
operation in a run whose failed receives, the ones that are ignored included, leave
nothing to arrive.

Three facts about the parts of an operation carry this: what a wire keeps throughout
(`CubridDriver.Wire.Inv`), what an operation that starts on a quiet wire reads, and what
an operation that does not start on a quiet wire reads first.
-/

namespace CubridDriver

open Prog Connection

namespace Wire

/-! ### Facts about a wire -/

/-- Every failed read has left nothing to arrive. -/
def NothingLeft (w : Wire) : Prop := ∀ e ∈ w.trace, ¬e.LeavesResponse

/-- **What a wire keeps** between exchanges: what is to arrive answers a request that has
been sent, and it has been left by a failed read. -/
structure Inv (w : Wire) : Prop where
  /-- The tags are numbers of requests. -/
  tags_le : ∀ b ∈ w.inbox, b.1 ≤ w.number
  /-- Only a failed read leaves something. -/
  inbox_eq : w.NothingLeft → w.inbox = []

/-- Since the trace was `tr`, nothing stale has been read. -/
def NoneStaleSince (tr : List Event) (w : Wire) : Prop :=
  ∃ evs, w.trace = tr ++ evs ∧ ∀ e ∈ evs, ¬e.Stale

/-- Since the trace was `tr`, something stale has been read. -/
def SomeStaleSince (tr : List Event) (w : Wire) : Prop :=
  ∃ evs, w.trace = tr ++ evs ∧ ∃ e ∈ evs, e.Stale

variable {w : Wire} {tr : List Event}

theorem tag_answerTo {data : List UInt8} {b : TaggedByte} (h : b ∈ w.answerTo data) :
    b.1 = w.number + 1 := by
  rw [answerTo] at h
  split at h
  · obtain ⟨_, -, rfl⟩ := List.mem_map.mp h
    rfl
  · cases h

theorem NothingLeft.of_append {w' : Wire} {evs : List Event} (h : w'.NothingLeft)
    (htrace : w'.trace = w.trace ++ evs) : w.NothingLeft := fun e he =>
  h e (by rw [htrace]; exact List.mem_append_left _ he)

theorem NoneStaleSince.append {w' : Wire} {evs : List Event} (h : w.NoneStaleSince tr)
    (htrace : w'.trace = w.trace ++ evs) (hevs : ∀ e ∈ evs, ¬e.Stale) :
    w'.NoneStaleSince tr := by
  obtain ⟨evs', htr, hnone⟩ := h
  refine ⟨evs' ++ evs, by rw [htrace, htr, List.append_assoc], fun e he => ?_⟩
  rcases List.mem_append.mp he with h | h
  · exact hnone e h
  · exact hevs e h

theorem SomeStaleSince.append {w' : Wire} {evs : List Event} (h : w.SomeStaleSince tr)
    (htrace : w'.trace = w.trace ++ evs) : w'.SomeStaleSince tr := by
  obtain ⟨evs', htr, e, he, hstale⟩ := h
  exact ⟨evs' ++ evs, by rw [htrace, htr, List.append_assoc], e, List.mem_append_left _ he, hstale⟩

/-! ### What every wire keeps -/

/-- In an exchange: what is to arrive is the answer, unless a failed read has left
something. -/
def Awaiting (w : Wire) : Prop := (∀ b ∈ w.inbox, b.1 ≤ w.number) ∧ (w.NothingLeft → w.Answered)

theorem Inv.deliver (h : w.Inv) (data : List UInt8) : (w.deliver data).Awaiting := by
  constructor
  · intro b hb
    rw [number_deliver]
    rcases List.mem_append.mp hb with hold | hnew
    · exact Nat.le_succ_of_le (h.tags_le b hold)
    · exact Nat.le_of_eq (tag_answerTo hnew)
  · intro hleft
    exact answered_deliver (h.inbox_eq (hleft.of_append rfl)) data

theorem Awaiting.take (h : w.Awaiting) (hlen : 4 ≤ w.inbox.length) :
    ((w.take 4).take w.frameLength).Inv := by
  constructor
  · intro b hb
    rw [number_take, number_take]
    exact h.1 b (List.mem_of_mem_drop (List.mem_of_mem_drop hb))
  · intro hleft
    exact inbox_take_frame (h.2 (hleft.of_append (trace_take_take w _ _))) hlen

theorem Awaiting.fail {w' : Wire} {k : ℕ} (h : w.Awaiting) (hw : w' = w ∨ w' = w.take 4) :
    (w'.fail (w'.inbox.drop k)).Inv := by
  have hnumber : (w'.fail (w'.inbox.drop k)).number = w.number := by
    rw [number_fail]
    rcases hw with rfl | rfl
    · rfl
    · exact number_take w 4
  -- what is left to arrive was to arrive before
  have hsub : ∀ b ∈ w'.inbox, b ∈ w.inbox := by
    rcases hw with rfl | rfl
    · exact fun b hb => hb
    · exact fun b hb => List.mem_of_mem_drop hb
  constructor
  · intro b hb
    rw [hnumber]
    exact h.1 b (hsub b (List.mem_of_mem_drop hb))
  · intro hleft
    have hevent := hleft (.failed (w'.inbox.drop k))
      (List.mem_append_right _ (List.mem_singleton_self _))
    exact not_not.mp hevent

theorem Inv.of_failed_send {w' : Wire} (h : w.Inv) (htrace : w'.trace = w.trace)
    (hinbox : w'.inbox = w.inbox ∨ w'.inbox = []) : w'.Inv := by
  have hnumber : w'.number = w.number := by rw [number, htrace, number]
  rcases hinbox with hinbox | hinbox
  · have hsame : w'.trace = w.trace ++ [] := by rw [htrace, List.append_nil]
    refine ⟨fun b hb => ?_, fun hleft => ?_⟩
    · rw [hinbox] at hb
      rw [hnumber]
      exact h.tags_le b hb
    · rw [hinbox]
      exact h.inbox_eq (hleft.of_append hsame)
  · refine ⟨fun b hb => ?_, fun _ => hinbox⟩
    rw [hinbox] at hb
    cases hb

/-- The wire of the client, as long as there is one. -/
def On (R : Wire → Prop) : Client Wire → Prop := Client.Over fun conn => R conn.stream

theorem triple_closeQueryHandle_inv (handle : Int32) :
    Triple (On Inv) (Client.closeQueryHandle handle) (fun _ => On Inv) (On Inv) :=
  triple_closeQueryHandle (S := Awaiting) (fun _ data _ h => h.deliver data)
    (fun _ _ h => h.of_failed_send) (fun _ h hlen => h.take hlen) fun _ _ _ h => h.fail

theorem triple_exchange_inv {α : Type} {request : CasInfo → Outcome Error (List UInt8)}
    (parse : Bytes → Outcome ProtocolError (α × CasInfo)) (hrequest : AsksResult request) :
    Triple (On Inv) (Client.onConn (exchange request parse)) (fun _ => On Inv) (On Inv) :=
  triple_exchange hrequest (S := fun _ => Awaiting) (fun _ data _ h => h.deliver data)
    (fun _ _ h => h.of_failed_send) (fun _ _ h hlen => h.take hlen) (fun _ _ _ _ h => h.fail)
    fun _ h => h

/-- **Every operation keeps the invariant**, however it ends. -/
theorem operationRules_inv : OperationRules (On Inv) (On Inv) (On Inv) (On Inv) where
  first _ parse := triple_exchange_inv parse
  next _ parse := triple_exchange_inv parse
  close := triple_closeQueryHandle_inv
  keep _ h := h
  refuse _ h := h
  stop _ h := h

/-! ### On a quiet wire -/

/-- Nothing is to arrive, and since the trace was `tr` nothing stale has been read. -/
def Quiet (tr : List Event) (w : Wire) : Prop := w.inbox = [] ∧ w.NoneStaleSince tr

/-- In an exchange on a quiet wire: what is to arrive is the answer. -/
def QuietlyAwaiting (tr : List Event) (w : Wire) : Prop :=
  w.Answered ∧ (∀ b ∈ w.inbox, b.1 = w.number) ∧ w.NoneStaleSince tr

theorem NoneStaleSince.deliver (h : w.NoneStaleSince tr) (data : List UInt8) :
    (w.deliver data).NoneStaleSince tr :=
  h.append rfl fun e he => by
    rw [List.mem_singleton.mp he]
    exact not_false

theorem Quiet.deliver (h : w.Quiet tr) (data : List UInt8) :
    (w.deliver data).QuietlyAwaiting tr := by
  refine ⟨answered_deliver h.1 data, fun b hb => ?_, h.2.deliver data⟩
  have hinbox : (w.deliver data).inbox = w.inbox ++ w.answerTo data := rfl
  rw [hinbox, h.1, List.nil_append] at hb
  rw [number_deliver, tag_answerTo hb]

theorem QuietlyAwaiting.take (h : w.QuietlyAwaiting tr) (hlen : 4 ≤ w.inbox.length) :
    ((w.take 4).take w.frameLength).Quiet tr := by
  refine ⟨inbox_take_frame h.1 hlen, h.2.2.append (trace_take_take w _ _) ?_⟩
  have hfresh : ∀ bs : List TaggedByte, (∀ b ∈ bs, b ∈ w.inbox) →
      ¬(Event.received w.number w.lastRequest bs).Stale := by
    rintro bs hbs ⟨-, b, hb, hne⟩
    exact hne (h.2.1 b (hbs b hb))
  intro e he
  rcases List.mem_pair.mp he with rfl | rfl
  · exact hfresh _ fun b hb => List.mem_of_mem_take hb
  · exact hfresh _ fun b hb => List.mem_of_mem_drop (List.mem_of_mem_take hb)

theorem triple_exchange_quiet {α : Type} {request : CasInfo → Outcome Error (List UInt8)}
    (parse : Bytes → Outcome ProtocolError (α × CasInfo)) (hrequest : AsksResult request) :
    Triple (On (Quiet tr)) (Client.onConn (exchange request parse)) (fun _ => On (Quiet tr))
      (On fun _ => True) :=
  triple_exchange hrequest (S := fun _ => QuietlyAwaiting tr) (fun _ data _ h => h.deliver data)
    (fun _ _ _ _ _ => trivial) (fun _ _ h hlen => h.take hlen) (fun _ _ _ _ _ _ => trivial)
    fun _ _ => trivial

/-- What is read after a query handle has been closed is no result. -/
theorem triple_closeQueryHandle_noneStale (handle : Int32) :
    Triple (On (NoneStaleSince tr)) (Client.closeQueryHandle handle)
      (fun _ => On (NoneStaleSince tr)) (On (NoneStaleSince tr)) := by
  -- what is read after the closing of a handle is no result
  have hclosing : ∀ (w : Wire) (bs : List TaggedByte),
      functionByte w.lastRequest = some FunctionCode.closeReqHandle.toU8 →
      ¬(Event.received w.number w.lastRequest bs).Stale := fun w bs hlast h => h.1 hlast
  have hfailed : ∀ left : List TaggedByte, ∀ e ∈ [Event.failed left], ¬e.Stale := by
    intro left e he
    rw [List.mem_singleton.mp he]
    exact not_false
  refine triple_closeQueryHandle (S := fun w => w.NoneStaleSince tr ∧
    functionByte w.lastRequest = some FunctionCode.closeReqHandle.toU8) ?_ ?_ ?_ ?_
  · intro w data hdata h
    exact ⟨h.deliver data, by rw [lastRequest_deliver, hdata]⟩
  · intro w w' h htrace _
    have hsame : w'.trace = w.trace ++ [] := by rw [htrace, List.append_nil]
    exact h.append hsame fun e he => by cases he
  · rintro w ⟨h, hlast⟩ _
    refine h.append (trace_take_take w _ _) fun e he => ?_
    rcases List.mem_pair.mp he with rfl | rfl <;> exact hclosing w _ hlast
  · rintro w w' k ⟨h, hlast⟩ (rfl | rfl)
    · exact h.append rfl (hfailed _)
    · have htake : (w.take 4).trace =
          w.trace ++ [.received w.number w.lastRequest (w.inbox.take 4)] := rfl
      refine (h.append htake fun e he => ?_).append rfl (hfailed _)
      rw [List.mem_singleton.mp he]
      exact hclosing w _ hlast

/-- **An operation that starts on a quiet wire** has read nothing stale when it returns. -/
theorem operationRules_quiet :
    OperationRules (On (Quiet tr)) (On (Quiet tr)) (On (NoneStaleSince tr)) (On fun _ => True) where
  first _ parse := triple_exchange_quiet parse
  next _ parse := triple_exchange_quiet parse
  close handle := triple_mono (triple_closeQueryHandle_noneStale handle)
    (fun _ h conn hconn => (h conn hconn).2) (fun _ _ h => h) fun _ _ _ _ => trivial
  keep _ h conn hconn := (h conn hconn).2
  refuse _ _ _ _ := trivial
  stop _ _ _ _ := trivial

/-! ### On a wire that is not quiet -/

/-- The trace is `tr`, and something is to arrive that answers a request sent already. -/
def Disturbed (tr : List Event) (w : Wire) : Prop :=
  w.trace = tr ∧ w.inbox ≠ [] ∧ ∀ b ∈ w.inbox, b.1 ≤ w.number

/-- In an exchange on a wire that was not quiet: the next byte does not answer the
request, and the request is not the closing of a query handle. -/
def DisturbedAwaiting (tr : List Event) (w : Wire) : Prop :=
  (∃ b bs, w.inbox = b :: bs ∧ b.1 ≠ w.number) ∧ (∃ evs, w.trace = tr ++ evs) ∧
    functionByte w.lastRequest ≠ some FunctionCode.closeReqHandle.toU8

theorem Disturbed.deliver {data : List UInt8} (h : w.Disturbed tr)
    (hdata : functionByte data ≠ some FunctionCode.closeReqHandle.toU8) :
    (w.deliver data).DisturbedAwaiting tr := by
  obtain ⟨htrace, hinbox, htags⟩ := h
  obtain ⟨b, bs, hb⟩ := List.exists_cons_of_ne_nil hinbox
  refine ⟨⟨b, bs ++ w.answerTo data, ?_, ?_⟩, ⟨[.sent data], ?_⟩, ?_⟩
  · have hnew : (w.deliver data).inbox = w.inbox ++ w.answerTo data := rfl
    rw [hnew, hb, List.cons_append]
  · have hle := htags b (by rw [hb]; exact List.mem_cons_self)
    rw [number_deliver]
    omega
  · have hnew : (w.deliver data).trace = w.trace ++ [.sent data] := rfl
    rw [hnew, htrace]
  · rw [lastRequest_deliver]
    exact hdata

/-- **The first byte that is read is stale.** -/
theorem DisturbedAwaiting.take (h : w.DisturbedAwaiting tr) :
    ((w.take 4).take w.frameLength).SomeStaleSince tr := by
  obtain ⟨⟨b, bs, hb, hne⟩, ⟨evs, htrace⟩, hlast⟩ := h
  have hnew := trace_take_take w 4 w.frameLength
  rw [htrace, List.append_assoc] at hnew
  refine ⟨_, hnew, .received w.number w.lastRequest (w.inbox.take 4), ?_, hlast, b, ?_, hne⟩
  · exact List.mem_append_right _ List.mem_cons_self
  · rw [hb]
    exact List.mem_cons_self

theorem triple_closeQueryHandle_someStale (handle : Int32) :
    Triple (On (SomeStaleSince tr)) (Client.closeQueryHandle handle)
      (fun _ => On (SomeStaleSince tr)) (On (SomeStaleSince tr)) := by
  refine triple_closeQueryHandle (S := SomeStaleSince tr) (fun _ _ _ h => h.append rfl) ?_
    (fun w h _ => h.append (trace_take_take w _ _)) ?_
  · intro w w' h htrace _
    have hsame : w'.trace = w.trace ++ [] := by rw [htrace, List.append_nil]
    exact h.append hsame
  · rintro w w' k h (rfl | rfl)
    · exact h.append rfl
    · have htake : (w.take 4).trace =
          w.trace ++ [.received w.number w.lastRequest (w.inbox.take 4)] := rfl
      exact (h.append htake).append rfl

/-- **An operation that does not start on a quiet wire** has read something stale when it
returns. -/
theorem operationRules_disturbed :
    OperationRules (On (Disturbed tr)) (On (SomeStaleSince tr)) (On (SomeStaleSince tr))
      (On fun _ => True) where
  first _ _ hrequest := triple_exchange hrequest (S := fun _ => DisturbedAwaiting tr)
    (fun _ _ hdata h => h.deliver hdata) (fun _ _ _ _ _ => trivial) (fun _ _ h _ => h.take)
    (fun _ _ _ _ _ _ => trivial) fun _ _ => trivial
  next _ _ hrequest := triple_exchange hrequest (S := fun _ => SomeStaleSince tr)
    (fun _ _ _ h => h.append rfl) (fun _ _ _ _ _ => trivial)
    (fun _ w h _ => h.append (trace_take_take w _ _)) (fun _ _ _ _ _ _ => trivial)
    fun _ _ => trivial
  close handle := triple_mono (triple_closeQueryHandle_someStale handle) (fun _ h => h)
    (fun _ _ h => h) fun _ _ _ _ => trivial
  keep _ h := h
  refuse _ _ _ _ := trivial
  stop _ _ _ _ := trivial

end Wire

/-! ### Sessions -/

namespace Session

open Wire

/-- A session with a client that has just been connected. -/
def Connected (s : Session Wire) : Prop :=
  ∃ network casInfo autoCommit protoVersion,
    s = start ⟨Wire.new network, casInfo⟩ autoCommit protoVersion

/-- From one state to the next, part of what a result is read from answers a request that
was not the last one. -/
def ReadsStale (s s' : Session Wire) : Prop :=
  ∃ conn conn', s.client.conn = some conn ∧ s'.client.conn = some conn' ∧
    ∃ e ∈ conn'.stream.trace.drop conn.stream.trace.length, e.Stale

/-- Part of the response to a request that has been sent is still to arrive. -/
def Outstanding (s : Session Wire) : Prop :=
  ∃ conn, s.client.conn = some conn ∧ conn.stream.inbox ≠ []

/-- No failed receive, ignored or not, has left anything to arrive. -/
def NothingLeft (s : Session Wire) : Prop := On Wire.NothingLeft s.client

variable {s s' : Session Wire} {op : Operation} {fuel : ℕ} {reply : Reply}

/-- What has happened on the wire of the session. -/
def trace (s : Session Wire) : List Event :=
  match s.client.conn with
  | some conn => conn.stream.trace
  | none => (s.shut.map Wire.trace).getD []

theorem trace_of_conn {conn : Connection Wire} (h : s.client.conn = some conn) :
    s.trace = conn.stream.trace := by
  rw [trace, h]

/-- A client without a connection sends nothing. -/
theorem trace_of_closed {x : Outcome Error Reply} (hconn : s.client.conn = none)
    (h : perform fuel op s = some (x, s')) : s'.client.conn = none ∧ s'.trace = s.trace := by
  obtain ⟨hconn', hshut⟩ := closed_of_perform hconn h
  exact ⟨hconn', by rw [trace, trace, hconn, hconn', hshut]⟩

/-- Closing the client sends one request, if anything. -/
theorem trace_closeClient (s : Session Wire) :
    s.closeClient.trace = s.trace ∨ ∃ conn, s.client.conn = some conn ∧
      s.closeClient.trace = s.trace ++ [.sent (writeConClose conn.casInfo)] := by
  cases hconn : s.client.conn with
  | none =>
    rw [Session.closeClient, hconn]
    exact Or.inl rfl
  | some conn =>
    have htrace : s.closeClient.trace =
        (writeAll (writeConClose conn.casInfo) conn.stream).2.trace := by
      rw [Session.closeClient, hconn]
      rfl
    rw [htrace, trace_of_conn hconn]
    rcases writeAll_cases (writeConClose conn.casInfo) conn.stream with
      hsend | ⟨e, w, hsend, hsame, -⟩
    · rw [hsend]
      exact Or.inr ⟨conn, rfl, rfl⟩
    · rw [hsend]
      exact Or.inl hsame

/-- **A call keeps the invariant**, whatever it returns. -/
theorem perform_inv {x : Outcome Error Reply} (hs : On Inv s.client)
    (h : perform fuel op s = some (x, s')) : On Inv s'.client := by
  have hpost : Triple (fun s : Session Wire => On Inv s.client) (perform fuel op)
      (fun _ s => On Inv s.client) fun s => On Inv s.client := by
    by_cases hop : op.Receives
    · exact triple_perform operationRules_inv hop fuel
    · exact triple_perform_other triple_closeQueryHandle_inv (fun _ h => h) hop fuel
  have hx := hpost s x s' hs h
  cases x <;> exact hx

/-- **The invariant of a run.** -/
theorem reachable_inv (hs : (lts Connected).Reachable s) : On Inv s.client := by
  refine Lts.Reachable.invariant (I := fun s => On Inv s.client) hs ?_ ?_
  · rintro _ ⟨network, casInfo, autoCommit, protoVersion, rfl⟩ conn hconn
    obtain rfl := Option.some.inj hconn
    exact ⟨nofun, fun _ => rfl⟩
  · intro s call s' hinv hstep
    obtain ⟨x, hperform⟩ := step_eq_ok.mp hstep
    exact perform_inv hinv hperform

/-- Nothing stale is read when nothing is outstanding, or when nothing is received. -/
theorem not_readsStale (h : perform fuel op s = some (.ok reply, s'))
    (hquiet : op.Receives → ¬s.Outstanding) : ¬s.ReadsStale s' := by
  rintro ⟨conn, conn', hconn, hconn', e, he, hstale⟩
  have hstart : NoneStaleSince conn.stream.trace conn.stream :=
    ⟨[], by rw [List.append_nil], fun e he => by cases he⟩
  have hover : ∀ R : Wire → Prop, R conn.stream → On R s.client := by
    intro R hR c hc
    obtain rfl := Option.some.inj (hconn.symm.trans hc)
    exact hR
  -- an operation with a result starts on a quiet wire; the others read no result
  have hnone : On (NoneStaleSince conn.stream.trace) s'.client := by
    by_cases hop : op.Receives
    · have hinbox : conn.stream.inbox = [] := by
        by_contra hne
        exact hquiet hop ⟨conn, hconn, hne⟩
      exact triple_perform operationRules_quiet hop fuel s _ s'
        (hover (Quiet conn.stream.trace) ⟨hinbox, hstart⟩) h
    · exact triple_perform_other triple_closeQueryHandle_noneStale (fun _ h => h) hop fuel s _ s'
        (hover (NoneStaleSince conn.stream.trace) hstart) h
  obtain ⟨evs, htrace, hevs⟩ := hnone conn' hconn'
  rw [htrace, List.drop_left] at he
  exact hevs e he hstale

/-- What is outstanding is read first, and taken for the response. -/
theorem readsStale_of_outstanding (hinv : On Inv s.client)
    (h : perform fuel op s = some (.ok reply, s')) (hop : op.Receives) (hout : s.Outstanding) :
    s.ReadsStale s' := by
  obtain ⟨conn, hconn, hinbox⟩ := hout
  have hstart : s.client.conn.isSome := by rw [hconn, Option.isSome_some]
  have hsome : s'.client.conn.isSome :=
    triple_perform (operationRules_isSome true) hop fuel s _ s' hstart h
  obtain ⟨conn', hconn'⟩ := Option.isSome_iff_exists.mp hsome
  have hdisturbed : On (Disturbed conn.stream.trace) s.client := by
    intro c hc
    obtain rfl := Option.some.inj (hconn.symm.trans hc)
    exact ⟨rfl, hinbox, (hinv conn hconn).tags_le⟩
  obtain ⟨evs, htrace, e, he, hstale⟩ :=
    triple_perform operationRules_disturbed hop fuel s _ s' hdisturbed h conn' hconn'
  refine ⟨conn, conn', hconn, hconn', e, ?_, hstale⟩
  rw [htrace, List.drop_left]
  exact he

/-- **When an operation returns a stale result**: in every run, whatever the network does,
an operation that returns has read its result from the response to an earlier request if
and only if part of an earlier response was still to arrive when it was called. So none
does in a run in which failed receives leave nothing to arrive. -/
theorem readsStale_iff (hs : (lts Connected).Reachable s)
    (h : perform fuel op s = some (.ok reply, s')) :
    (s.ReadsStale s' ↔ op.Receives ∧ s.Outstanding) ∧ (s.NothingLeft → ¬s.ReadsStale s') := by
  have hinv := reachable_inv hs
  refine ⟨⟨fun hstale => ?_, fun ⟨hop, hout⟩ => readsStale_of_outstanding hinv h hop hout⟩,
    fun hleft => ?_⟩
  · by_contra hcon
    exact not_readsStale h (fun hop hout => hcon ⟨hop, hout⟩) hstale
  · refine not_readsStale h fun _ => ?_
    rintro ⟨conn, hconn, hinbox⟩
    exact hinbox ((hinv conn hconn).inbox_eq (hleft conn hconn))

/-- A server that answers its first request with a bare response code, and every later one
with a version. -/
def versionServer (number : ℕ) (_ : List UInt8) : Option Frame :=
  if number = 1 then some ⟨(1, 2, 3, 4), [0, 0, 0, 0], by decide⟩
  else some ⟨(1, 2, 3, 4), [0, 0, 0, 0, 49, 49, 46, 50, 0], by decide⟩

/-- A network on which the first read times out before the response arrives. -/
def lateNetwork : Network where
  fate clock := if clock = 1 then .late .timedOut 0 else .done
  answer := versionServer

/-- A network on which every call is carried out. -/
def promptNetwork : Network where
  fate _ := .done
  answer := versionServer

/-- A commit times out; the ping that follows returns the version it reads from the
response to the commit, the empty one, where the server has sent `11.2`. -/
theorem readsStale_after_timeout : ∃ s s', (lts Connected).Reachable s ∧
    perform 0 .ping s = some (.ok (.version ""), s') ∧ s.ReadsStale s' := by
  refine ⟨_, _, ⟨start ⟨Wire.new lateNetwork, (0, 0, 0, 0)⟩ true 7, [(0, .commit)],
    ⟨lateNetwork, _, _, _, rfl⟩, rfl⟩, rfl, _, _, rfl, rfl, _,
    List.mem_cons_of_mem _ List.mem_cons_self, ?_, _, List.mem_cons_self, ?_⟩
  · decide
  · decide

/-- Without a timeout, nothing is stale. -/
theorem readsStale_iff_prompt : ∃ s s', perform 0 .ping s = some (.ok (.version ""), s') ∧
    ¬s.ReadsStale s' := by
  have hs : (lts Connected).Reachable (start ⟨Wire.new promptNetwork, (0, 0, 0, 0)⟩ true 7) :=
    Lts.Reachable.of_init ⟨promptNetwork, _, _, _, rfl⟩
  have hleft : (start ⟨Wire.new promptNetwork, (0, 0, 0, 0)⟩ true 7).NothingLeft := by
    intro conn hconn
    obtain rfl := Option.some.inj hconn
    exact nofun
  have hping : ∃ s', perform 0 .ping (start ⟨Wire.new promptNetwork, (0, 0, 0, 0)⟩ true 7) =
      some (.ok (.version ""), s') := ⟨_, rfl⟩
  obtain ⟨s', hping⟩ := hping
  exact ⟨_, s', hping, (readsStale_iff hs hping).2 hleft⟩

end Session

end CubridDriver
