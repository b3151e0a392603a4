import CubridDriver.Pool.Sync
import CubridDriver.Transaction
import Mathlib.Logic.Relation

/-!
# What a pooled connection carries over

A guard that is dropped puts its client back as it is: the pool does not reset the
auto-commit mode, nor end a transaction, nor does it ask whether the connection still works.
So what the next borrower gets is the client as the last one has left it, and all that can be
said of it follows from the calls that have been made: `CubridDriver.SyncPool.handOut_carries`.

A client in the pool comes with the record of these calls, which the pool cannot see. That it
cannot is why the record says something of the pool.
-/

namespace CubridDriver

open Prog

/-! ### Calls -/

/-- A call that has been made. -/
structure Record where
  /-- The operation. -/
  operation : Operation
  /-- The auto-commit mode it was called with. -/
  autoCommit : Bool
  /-- It has returned a value. -/
  returned : Bool

namespace Record

/-- It runs a statement with auto-commit off. -/
def Defers (r : Record) : Prop := r.operation.Runs ∧ r.autoCommit = false

/-- It is a commit or a rollback that has returned. -/
def Settles (r : Record) : Prop := r.operation.Ends ∧ r.returned = true

/-- The auto-commit mode after the calls: it is the one that was set last, or the one there
was. -/
def mode (autoCommit : Bool) (records : List Record) : Bool :=
  records.foldl (fun mode r => r.operation.mode mode) autoCommit

end Record

/-- A client, the statements prepared with it, and the calls that have been made. -/
structure Loan where
  /-- The client and its statements. -/
  session : Session Wire
  /-- The calls. -/
  records : List Record

namespace Loan

/-- The client has just been connected, with the auto-commit mode of the DSN. -/
def Fresh (autoCommit : Bool) (loan : Loan) : Prop :=
  ∃ network casInfo protoVersion,
    loan = ⟨.start ⟨Wire.new network, casInfo⟩ autoCommit protoVersion, []⟩

/-- A call is made; it ends, in whatever way. -/
def Calls (loan loan' : Loan) : Prop :=
  ∃ fuel op x session, Session.perform fuel op loan.session = some (x, session) ∧
    loan' = ⟨session, loan.records ++
      [⟨op, loan.session.client.autoCommit, decide (∃ reply, x = .ok reply)⟩]⟩

/-- From a client that had just been connected, by nothing but calls. -/
def Lent (autoCommit : Bool) (loan : Loan) : Prop :=
  ∃ fresh : Loan, fresh.Fresh autoCommit ∧ Relation.ReflTransGen Calls fresh loan

variable {autoCommit : Bool} {loan loan' : Loan}

theorem Fresh.lent (h : loan.Fresh autoCommit) : loan.Lent autoCommit := ⟨loan, h, .refl⟩

theorem Fresh.isClosed_eq (h : loan.Fresh autoCommit) :
    loan.session.client.isClosed = false := by
  obtain ⟨network, casInfo, protoVersion, rfl⟩ := h
  rfl

theorem Lent.call (h : loan.Lent autoCommit) (hcall : loan.Calls loan') :
    loan'.Lent autoCommit := by
  obtain ⟨fresh, hfresh, hcalls⟩ := h
  exact ⟨fresh, hfresh, hcalls.tail hcall⟩

/-- **The mode is the one that was set last.** -/
theorem Lent.autoCommit_eq (h : loan.Lent autoCommit) :
    loan.session.client.autoCommit = Record.mode autoCommit loan.records := by
  obtain ⟨fresh, ⟨network, casInfo, protoVersion, rfl⟩, hcalls⟩ := h
  induction hcalls with
  | refl => rfl
  | tail _ hcall ih =>
    obtain ⟨fuel, op, x, session, hperform, rfl⟩ := hcall
    rw [Session.autoCommit_of_perform hperform, ih, Record.mode, Record.mode, List.foldl_concat]

/-- **What waits has been called for**, and not been ended since. -/
theorem Lent.waiting (h : loan.Lent autoCommit) (hwaiting : Waiting loan.session.trace) :
    History.Since Record.Defers Record.Settles loan.records := by
  obtain ⟨fresh, ⟨network, casInfo, protoVersion, rfl⟩, hcalls⟩ := h
  induction hcalls with
  | refl => exact absurd hwaiting History.not_since_nil
  | tail _ hcall ih =>
    obtain ⟨fuel, op, x, session, hperform, rfl⟩ := hcall
    rw [History.since_concat]
    rcases Session.waiting_of_perform hperform hwaiting with hrun | ⟨hbefore, hends⟩
    · exact Or.inl hrun
    · exact Or.inr ⟨ih hbefore, fun h => hends ⟨h.1, of_decide_eq_true h.2⟩⟩

end Loan

/-- The clients of the pool, with the calls that have been made. -/
def loanClient : PoolClient Loan := ⟨fun loan => loan.session.client.isClosed, .client⟩

theorem isClosed_loanClient (loan : Loan) :
    loanClient.isClosed loan = loan.session.client.isClosed := rfl

namespace SyncPool

/-! ### Borrowing -/

/-- The blocking pool, for a DSN with the given auto-commit mode. -/
def lending (config : PoolConfig) (autoCommit : Bool) :
    Lts (PoolState Loan) (SyncAction Loan) Refused where
  init s := PoolState.Initial loanClient config s ∧ ∀ loan ∈ s.inner.idle, loan.Fresh autoCommit
  step := step loanClient

/-- A connect returns a client that has just been connected, and what a borrower does is a
call of an operation. -/
def ByCalls (autoCommit : Bool) (s : PoolState Loan) (a : SyncAction Loan) (_ : PoolState Loan) :
    Prop :=
  match a with
  | .shared (.connected _ loan) => loan.Fresh autoCommit
  | .shared (.borrow i op) => ∀ loan, s.guards[i]? = some loan → loan.Calls (op loan)
  | _ => True

/-- What holds of the clients of the pool: nothing but calls has been made on them, and those
that are idle are not closed. -/
structure Carries (autoCommit : Bool) (s : PoolState Loan) : Prop where
  idle : ∀ loan ∈ s.inner.idle, loan.Lent autoCommit ∧ loan.session.client.isClosed = false
  guards : ∀ loan ∈ s.guards, loan.Lent autoCommit

variable {autoCommit : Bool} {config : PoolConfig} {s s' : PoolState Loan}

/-- The first section of a `get` moves a client, or none. -/
theorem Carries.start (hs : Carries autoCommit s) (g : ℕ) : Carries autoCommit (s.start g) := by
  rcases s.start_cases g with ⟨-, h⟩ | ⟨client, idle, -, hidle, h⟩ | ⟨-, -, -, h⟩ | ⟨-, -, -, h⟩
  · rw [h]
    exact ⟨hs.idle, hs.guards⟩
  · rw [h]
    refine ⟨fun loan hloan => hs.idle loan ?_, fun loan hloan => ?_⟩
    · rw [hidle]
      exact List.mem_cons_of_mem _ hloan
    · rcases List.mem_append.mp hloan with hloan | hloan
      · exact hs.guards loan hloan
      · obtain rfl := List.mem_singleton.mp hloan
        exact (hs.idle loan (by rw [hidle]; exact List.mem_cons_self)).1
  · rw [h]
    exact ⟨hs.idle, hs.guards⟩
  · rw [h]
    exact ⟨hs.idle, hs.guards⟩

/-- **A step changes a client by a call only.** -/
theorem step_carries {a : SyncAction Loan} (hs : Carries autoCommit s)
    (h : step loanClient s a = .ok s') (ha : ByCalls autoCommit s a s') :
    Carries autoCommit s' := by
  cases a with
  | shared a =>
    have h : s.step loanClient a = .ok s' := h
    cases a with
    | call =>
      obtain rfl := Outcome.ok.inj h
      exact ⟨hs.idle, hs.guards⟩
    | start g =>
      obtain ⟨-, rfl⟩ := PoolState.step_start h
      exact hs.start g
    | connected g loan =>
      obtain ⟨-, rfl⟩ := PoolState.step_connected h
      refine ⟨hs.idle, fun loan' hloan => ?_⟩
      rcases List.mem_append.mp hloan with hloan | hloan
      · exact hs.guards loan' hloan
      · exact List.mem_singleton.mp hloan ▸ ha.lent
    | connectError g e =>
      obtain ⟨-, rfl⟩ := PoolState.step_connectError h
      exact ⟨hs.idle, hs.guards⟩
    | fail g =>
      obtain ⟨e, n, -, -, rfl⟩ := PoolState.step_fail h
      exact ⟨hs.idle, hs.guards⟩
    | close =>
      obtain rfl := Outcome.ok.inj h
      exact ⟨nofun, hs.guards⟩
    | borrow i op =>
      obtain ⟨loan, hi, rfl⟩ := PoolState.step_borrow h
      refine ⟨hs.idle, fun loan' hloan => ?_⟩
      rcases List.mem_or_eq_of_mem_set hloan with hloan | rfl
      · exact hs.guards loan' hloan
      · exact (hs.guards loan (List.mem_of_getElem? hi)).call (ha loan hi)
  | dropGuard i =>
    obtain ⟨loan, n, hi, -, rfl⟩ := dropGuard_eq_ok h
    have hloan := hs.guards loan (List.mem_of_getElem? hi)
    refine ⟨fun loan' hloan' => ?_, fun loan' hloan' =>
      hs.guards loan' (List.mem_of_mem_eraseIdx hloan')⟩
    dsimp only at hloan'
    split at hloan'
    · rename_i hkeep
      rcases List.mem_append.mp hloan' with hold | hnew
      · exact hs.idle loan' hold
      · obtain rfl := List.mem_singleton.mp hnew
        refine ⟨hloan, ?_⟩
        simpa [isClosed_loanClient] using (Bool.and_eq_true_iff.mp hkeep).2
    · exact hs.idle loan' hloan'

/-- **The clients of a pool**, in any run. -/
theorem reachable_carries (h : (lending config autoCommit).ReachableBy (ByCalls autoCommit) s) :
    Carries autoCommit s := by
  refine h.invariant ?_ fun s a s' hs hstep ha => step_carries hs hstep ha
  rintro s ⟨hinit, hfresh⟩
  refine ⟨fun loan hloan => ⟨(hfresh loan hloan).lent, (hfresh loan hloan).isClosed_eq⟩, ?_⟩
  rw [hinit.2.2]
  exact nofun

/-- **What a pooled connection carries over.** In any run of the pool, whatever its borrowers
call: a client that `get` hands out from the idle ones is not closed, and it is a client that
had just been connected on which the calls of its borrowers have been made, and nothing else.
So its auto-commit mode is the one that was set last, or the one of the DSN if none was; and a
statement waits for a commit or a rollback only if a borrower has run one with auto-commit off,
and none has ended a transaction since. -/
theorem handOut_carries (h : (lending config autoCommit).ReachableBy (ByCalls autoCommit) s)
    {g : ℕ} (hget : step loanClient s (.shared (.start g)) = .ok s')
    (hopen : s.inner.closed = false) {loan : Loan} {idle : List Loan}
    (hidle : s.inner.idle = loan :: idle) :
    s'.guards = s.guards ++ [loan] ∧ loan.session.client.isClosed = false ∧
      (∃ fresh : Loan, fresh.Fresh autoCommit ∧ Relation.ReflTransGen Loan.Calls fresh loan) ∧
      loan.session.client.autoCommit = Record.mode autoCommit loan.records ∧
      (Waiting loan.session.trace →
        History.Since Record.Defers Record.Settles loan.records) := by
  obtain ⟨hlent, hclosed⟩ := (reachable_carries h).idle loan (by
    rw [hidle]
    exact List.mem_cons_self)
  refine ⟨?_, hclosed, hlent, hlent.autoCommit_eq, hlent.waiting⟩
  have hstart : s.step loanClient (.start g) = .ok s' := hget
  obtain ⟨-, rfl⟩ := PoolState.step_start hstart
  rw [PoolState.start, PoolInner.startGet, hopen, hidle]
  rfl

/-! ### A borrower that leaves a statement waiting -/

namespace LeftOpen

/-- The network: every request is answered, and the fifth socket call fails. -/
def network : Network where
  fate clock := if clock = 4 then .lost .timedOut else .done
  answer _ _ := some ⟨(1, 2, 3, 4), List.replicate 30 0, by decide⟩

/-- The configuration: one connection, made when it is needed. -/
def onDemand : PoolConfig := ⟨"cubrid://localhost/demodb", 1, 0⟩

/-- A call that a borrower makes. -/
def call (op : Operation) (loan : Loan) : Loan :=
  match Session.perform 0 op loan.session with
  | some (x, session) => ⟨session, loan.records ++
      [⟨op, loan.session.client.autoCommit, decide (∃ reply, x = .ok reply)⟩]⟩
  | none => loan

theorem calls_call {op : Operation} {loan : Loan}
    (h : (Session.perform 0 op loan.session).isSome) : loan.Calls (call op loan) := by
  obtain ⟨⟨x, session⟩, hperform⟩ := Option.isSome_iff_exists.mp h
  exact ⟨0, op, x, session, hperform, by rw [call, hperform]⟩

/-- The client, when it has been connected. -/
def connected : Loan := ⟨.start ⟨Wire.new network, (0, 0, 0, 0)⟩ true 0, []⟩

/-- The client, when auto-commit has been set off. -/
def manual : Loan := call (.setAutoCommit false) connected

/-- The client, when a statement has been run. -/
def written : Loan := call (.execute "" []) manual

/-- The client, when the receive of a ping has failed. It is put back like this. -/
def left : Loan := call .ping written

/-- The pool, when its client is borrowed. -/
def lent (loan : Loan) : PoolState Loan :=
  ⟨⟨onDemand, [], 1, false⟩, [.returned (.ok ())], [loan]⟩

/-- The pool, when its client has been put back and `get` is called once more. -/
def pool : PoolState Loan :=
  ⟨⟨onDemand, [left], 0, false⟩, [.returned (.ok ()), .waiting], []⟩

theorem isClosed_left : left.session.client.isClosed = false := by decide +kernel

theorem waiting_left : Waiting left.session.trace := by
  have htrace : left.session.trace = .sent (writePrepareAndExecute "" false (0, 0, 0, 0)) ::
      [.received 1 (writePrepareAndExecute "" false (0, 0, 0, 0))
          ([0, 0, 0, 30].map fun b => (1, b)),
        .received 1 (writePrepareAndExecute "" false (0, 0, 0, 0))
          (([1, 2, 3, 4] ++ List.replicate 30 (0 : UInt8)).map fun b => (1, b)),
        .sent (writeGetDbVersion false (1, 2, 3, 4)), .failed []] := by
    decide +kernel
  have hcode : functionByte (writePrepareAndExecute "" false (0, 0, 0, 0)) ≠
      some FunctionCode.endTran.toU8 := by
    rw [writePrepareAndExecute, functionByte_framed]
    decide
  refine ⟨[], _, _, htrace, Or.inl ⟨"", _, rfl⟩, fun e he => ?_⟩
  simp only [List.mem_cons, List.not_mem_nil, or_false] at he
  rcases he with rfl | rfl | rfl | rfl
  · exact fun h => hcode h.1
  · exact fun h => hcode h.1
  · exact not_false
  · exact not_false

theorem reachable_connected :
    (lending onDemand true).ReachableBy (ByCalls true) (lent connected) := by
  have hinit : (lending onDemand true).init ⟨⟨onDemand, [], 0, false⟩, [], []⟩ :=
    ⟨⟨⟨fun _ => .ok connected, rfl⟩, rfl, rfl⟩, nofun⟩
  have hcall := Lts.ReachableBy.step (C := ByCalls true) (a := SyncAction.shared .call)
    (.init hinit) rfl trivial
  have hstart := hcall.step (a := SyncAction.shared (.start 0)) rfl trivial
  exact hstart.step (a := SyncAction.shared (.connected 0 connected)) rfl ⟨network, _, _, rfl⟩

theorem reachable_call (op : Operation) {loan : Loan}
    (h : (lending onDemand true).ReachableBy (ByCalls true) (lent loan))
    (hop : (Session.perform 0 op loan.session).isSome) :
    (lending onDemand true).ReachableBy (ByCalls true) (lent (call op loan)) := by
  refine h.step (a := SyncAction.shared (.borrow 0 (call op))) rfl fun loan' heq => ?_
  obtain rfl := Option.some.inj heq
  exact calls_call hop

theorem reachable_pool : (lending onDemand true).ReachableBy (ByCalls true) pool := by
  have hmanual := reachable_call (.setAutoCommit false) reachable_connected rfl
  have hwritten := reachable_call (.execute "" []) hmanual (by decide +kernel)
  have hleft : (lending onDemand true).ReachableBy (ByCalls true) (lent left) :=
    reachable_call .ping hwritten (by decide +kernel)
  -- the client is not closed, so it is put back
  have hkeep : loanClient.isClosed left = false := (isClosed_loanClient left).trans isClosed_left
  have hdrop : (lending onDemand true).step (lent left) (.dropGuard 0) =
      .ok ⟨⟨onDemand, [left], 0, false⟩, [.returned (.ok ())], []⟩ := by
    change dropGuard loanClient (lent left) 0 = _
    rw [dropGuard]
    simp only [lent, List.getElem?_cons_zero, hkeep]
    rfl
  have hdropped := hleft.step (a := SyncAction.dropGuard 0) hdrop trivial
  exact hdropped.step (a := SyncAction.shared .call) rfl trivial

end LeftOpen

open LeftOpen in
/-- The next borrower gets the client with auto-commit off, a statement waiting, and a socket
call that has failed. -/
theorem handOut_leftOpen : ∃ s s' loan,
    (lending onDemand true).ReachableBy (ByCalls true) s ∧
    step loanClient s (.shared (.start 1)) = .ok s' ∧ s.inner.idle = [loan] ∧ s'.guards = [loan] ∧
    loan.session.client.autoCommit = false ∧ Waiting loan.session.trace ∧
    .failed [] ∈ loan.session.trace :=
  ⟨pool, _, left, reachable_pool, rfl, rfl, rfl, by decide +kernel, waiting_left,
    by decide +kernel⟩

open LeftOpen in
/-- That is what its borrower has called for. -/
theorem handOut_carries_leftOpen :
    Record.mode true left.records = false ∧
      History.Since Record.Defers Record.Settles left.records := by
  obtain ⟨-, -, -, hmode, hsince⟩ := handOut_carries reachable_pool (g := 1) rfl rfl rfl
  exact ⟨hmode ▸ by decide +kernel, hsince waiting_left⟩

end SyncPool

end CubridDriver
