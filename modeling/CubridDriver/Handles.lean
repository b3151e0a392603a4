import CubridDriver.Conversation
import CubridDriver.Head

/-!
# No use after close

A query handle is assigned by the server, in the response to `Prepare` or
`PrepareAndExecute`; it is named by the requests `Execute`, `Fetch` and `CloseReqHandle`,
and the last one gives it back. The numbers may be used again.

As long as the server assigns no handle that is still open, each request of the client
names an open one, in whatever order its statements are executed, queried and closed, and
after the client is closed nothing is sent at all: `CubridDriver.Session.reachable_usesOpen`.
What carries this along a run is that the statements that have not been closed hold open
handles, each one of its own.
-/

namespace CubridDriver

open History

/-! ### The life of a handle -/

namespace Turn

/-- The server assigns a handle. -/
def Issues (turn : Turn) (handle : Int32) : Prop :=
  (functionByte turn.request = some FunctionCode.prepare.toU8 ∨
    functionByte turn.request = some FunctionCode.prepareAndExecute.toU8) ∧
  responseCode turn.frame.data = some handle ∧ ¬handle < 0

/-- The client names a handle. -/
def Names (turn : Turn) (handle : Int32) : Prop :=
  (functionByte turn.request = some FunctionCode.execute.toU8 ∨
    functionByte turn.request = some FunctionCode.fetch.toU8 ∨
    functionByte turn.request = some FunctionCode.closeReqHandle.toU8) ∧
  firstArgument turn.request = handle

/-- The client closes a handle. -/
def Closes (turn : Turn) (handle : Int32) : Prop :=
  functionByte turn.request = some FunctionCode.closeReqHandle.toU8 ∧
    firstArgument turn.request = handle

instance (turn : Turn) (handle : Int32) : Decidable (turn.Closes handle) :=
  inferInstanceAs (Decidable (_ ∧ _))

end Turn

/-- A handle is open: it has been assigned, and it has not been closed since. -/
def Open (turns : List Turn) (handle : Int32) : Prop :=
  Since (Turn.Issues · handle) (Turn.Closes · handle) turns

/-- The promise of the server: it assigns no handle that is open. -/
def Fresh (turns : List Turn) : Prop :=
  Each (fun before turn => ∀ handle, 0 < handle → turn.Issues handle → ¬Open before handle) turns

/-- Each handle the client names is open. -/
def UsesOpen (turns : List Turn) : Prop :=
  Each (fun before turn => ∀ handle, turn.Names handle → Open before handle) turns

/-! ### Requests that name no handle -/

section Framed

variable {turn : Turn} {code : FunctionCode} {arguments : List UInt8} {casInfo : CasInfo}
  {handle handle' : Int32}

theorem functionByte_eq_iff (h : turn.request = framed code arguments casInfo)
    (code' : FunctionCode) : functionByte turn.request = some code'.toU8 ↔ code = code' := by
  rw [h, functionByte_framed, Option.some.injEq, FunctionCode.toU8_inj]

/-- Only three kinds of requests name a handle. -/
theorem not_names (h : turn.request = framed code arguments casInfo) (hexecute : code ≠ .execute)
    (hfetch : code ≠ .fetch) (hclose : code ≠ .closeReqHandle) : ¬turn.Names handle := by
  rintro ⟨hcode, -⟩
  simp only [functionByte_eq_iff h] at hcode
  rcases hcode with rfl | rfl | rfl
  · exact hexecute rfl
  · exact hfetch rfl
  · exact hclose rfl

/-- Only one kind closes it. -/
theorem not_closes (h : turn.request = framed code arguments casInfo)
    (hclose : code ≠ .closeReqHandle) : ¬turn.Closes handle := fun hcloses =>
  hclose ((functionByte_eq_iff h _).mp hcloses.1)

/-- Two kinds are answered with one. -/
theorem not_issues (h : functionByte turn.request = some code.toU8) (hprepare : code ≠ .prepare)
    (hexecute : code ≠ .prepareAndExecute) : ¬turn.Issues handle := by
  rintro ⟨hcode, -⟩
  simp only [h, Option.some.injEq, FunctionCode.toU8_inj] at hcode
  exact hcode.elim hprepare hexecute

/-- A handle that is named is the first argument. -/
theorem eq_of_names (h : turn.request = framed code (PacketWriter.addInt handle ++ arguments)
    casInfo) (hnames : turn.Names handle') : handle' = handle := by
  rw [← hnames.2, h, firstArgument_framed]

/-- So is one that is closed. -/
theorem eq_of_closes (h : turn.request = writeCloseReqHandle handle casInfo) :
    turn.Closes handle' ↔ handle' = handle := by
  have harguments : turn.request =
      framed .closeReqHandle (PacketWriter.addInt handle ++ []) casInfo := by
    rw [h, List.append_nil]
    rfl
  rw [Turn.Closes, functionByte_eq_iff harguments, harguments, firstArgument_framed, eq_self,
    true_and, eq_comm]

theorem writeExecute_eq (handle : Int32) (stmtType : StatementType) (args : List Value)
    (autoCommit : Bool) (casInfo : CasInfo) : ∃ arguments,
      writeExecute handle stmtType args autoCommit casInfo =
        framed .execute (PacketWriter.addInt handle ++ arguments) casInfo :=
  ⟨_, by simp only [writeExecute, List.append_assoc]; rfl⟩

theorem writeFetch_eq {fetched size : Int32} {request : List UInt8}
    (h : (writeFetch handle fetched size casInfo : Outcome Error _) = .ok request) :
    ∃ arguments, request =
      framed .fetch (PacketWriter.addInt handle ++ arguments) casInfo := by
  obtain ⟨start, -, hrequest⟩ := Outcome.bind_eq_ok.mp h
  refine ⟨PacketWriter.addInt start ++ (PacketWriter.addInt size ++
    (PacketWriter.addByte 0 ++ PacketWriter.addInt 0)), ?_⟩
  rw [← Outcome.ok.inj hrequest]
  simp only [List.append_assoc]

end Framed

/-! ### The invariant -/

/-- The statement with the given number has not been closed. -/
def Live (statements : List Statement) (i : ℕ) (stmt : Statement) : Prop :=
  statements[i]? = some stmt ∧ stmt.closed = false

/-- **The invariant**: every handle that has been named was open, and the statements that
have not been closed hold open handles, no two of them the same. -/
structure InUse (statements : List Statement) (turns : List Turn) : Prop where
  uses : UsesOpen turns
  holds : ∀ i stmt, Live statements i stmt → Open turns stmt.queryHandle
  apart : ∀ i j stmt stmt', Live statements i stmt → Live statements j stmt' → i ≠ j →
    0 < stmt.queryHandle → stmt.queryHandle ≠ stmt'.queryHandle

/-- A call works with an open handle. One that belongs to the call is not the handle of a
statement. -/
structure Works (statements : List Statement) (cursor : Cursor) (turns : List Turn) : Prop
    extends InUse statements turns where
  isOpen : Open turns cursor.handle
  alone : cursor.owned = true → 0 < cursor.handle → ∀ i stmt, Live statements i stmt →
    stmt.queryHandle ≠ cursor.handle

section Invariant

variable {statements : List Statement} {turns : List Turn} {turn : Turn} {code : FunctionCode}
  {handle : Int32} {arguments : List UInt8} {casInfo : CasInfo} {stmt : Statement}

/-- At the start there is nothing to hold. -/
theorem inUse_nil : InUse [] [] := by
  have hnone : ∀ i stmt, ¬Live [] i stmt := fun i stmt h => by cases h.1
  exact ⟨each_nil, fun i stmt h => absurd h (hnone i stmt),
    fun i j stmt stmt' h => absurd h (hnone i stmt)⟩

/-- **One more turn** that names open handles, and closes none that is held. -/
theorem InUse.step (h : InUse statements turns)
    (hnames : ∀ handle, turn.Names handle → Open turns handle)
    (hcloses : ∀ i stmt, Live statements i stmt → ¬turn.Closes stmt.queryHandle) :
    InUse statements (turns ++ [turn]) where
  uses := each_concat.mpr ⟨h.uses, hnames⟩
  holds i stmt hlive :=
    since_concat.mpr (Or.inr ⟨h.holds i stmt hlive, hcloses i stmt hlive⟩)
  apart := h.apart

/-- A turn that names no handle. -/
theorem InUse.step_other (h : InUse statements turns)
    (hrequest : turn.request = framed code arguments casInfo) (hexecute : code ≠ .execute)
    (hfetch : code ≠ .fetch) (hclose : code ≠ .closeReqHandle) :
    InUse statements (turns ++ [turn]) :=
  h.step (fun _ hnames => absurd hnames (not_names hrequest hexecute hfetch hclose))
    fun _ _ _ => not_closes hrequest hclose

/-- A turn that names an open handle, and does not close it. -/
theorem InUse.step_names (h : InUse statements turns)
    (hrequest : turn.request = framed code (PacketWriter.addInt handle ++ arguments) casInfo)
    (hopen : Open turns handle) (hclose : code ≠ .closeReqHandle) :
    InUse statements (turns ++ [turn]) :=
  h.step (fun _ hnames => eq_of_names hrequest hnames ▸ hopen)
    fun _ _ _ => not_closes hrequest hclose

/-- A turn that closes a handle no statement holds. -/
theorem InUse.step_closes (h : InUse statements turns)
    (hrequest : turn.request = writeCloseReqHandle handle casInfo) (hopen : Open turns handle)
    (halone : ∀ i stmt, Live statements i stmt → stmt.queryHandle ≠ handle) :
    InUse statements (turns ++ [turn]) := by
  refine h.step (fun handle' hnames => ?_) fun i stmt hlive hcloses => ?_
  · have harguments : turn.request =
        framed .closeReqHandle (PacketWriter.addInt handle ++ []) casInfo := by
      rw [hrequest, List.append_nil]
      rfl
    exact eq_of_names harguments hnames ▸ hopen
  · exact halone i stmt hlive ((eq_of_closes hrequest).mp hcloses)

/-- A statement that is closed is one less. -/
theorem live_set {i j : ℕ} {stmt' : Statement} (hclosed : stmt'.closed = true)
    (h : Live (statements.set i stmt') j stmt) : Live statements j stmt ∧ j ≠ i := by
  obtain ⟨hj, hopen⟩ := h
  rw [List.getElem?_set] at hj
  split at hj
  · split at hj
    · obtain rfl := Option.some.inj hj
      rw [hclosed] at hopen
      cases hopen
    · cases hj
  · exact ⟨⟨hj, hopen⟩, Ne.symm ‹_›⟩

theorem InUse.set (h : InUse statements turns) (i : ℕ) {stmt' : Statement}
    (hclosed : stmt'.closed = true) : InUse (statements.set i stmt') turns where
  uses := h.uses
  holds j stmt hlive := h.holds j stmt (live_set hclosed hlive).1
  apart j k stmt stmt'' hj hk :=
    h.apart j k stmt stmt'' (live_set hclosed hj).1 (live_set hclosed hk).1

/-- A statement that is prepared is one more. -/
theorem live_concat {stmt' : Statement} {j : ℕ} (h : Live (statements ++ [stmt']) j stmt) :
    Live statements j stmt ∨ j = statements.length ∧ stmt = stmt' := by
  obtain ⟨hj, hopen⟩ := h
  rw [List.getElem?_append] at hj
  split at hj
  · exact Or.inl ⟨hj, hopen⟩
  · obtain ⟨hlen, rfl⟩ := List.getElem?_eq_some_iff.mp hj
    rw [List.length_singleton] at hlen
    exact Or.inr ⟨by omega, by simp⟩

/-- A handle that has just been assigned is not held. -/
theorem InUse.alone_of_fresh (h : InUse statements turns) (hfresh : Fresh (turns ++ [turn]))
    (hissues : turn.Issues handle) (hpos : 0 < handle) (i : ℕ) (stmt : Statement)
    (hlive : Live statements i stmt) : stmt.queryHandle ≠ handle := fun heq =>
  (each_concat.mp hfresh).2 handle hpos hissues (heq ▸ h.holds i stmt hlive)

/-- **One more statement**, with a handle that has just been assigned. -/
theorem InUse.concat (h : InUse statements turns) (hturn : InUse statements (turns ++ [turn]))
    (hfresh : Fresh (turns ++ [turn])) (hissues : turn.Issues stmt.queryHandle) :
    InUse (statements ++ [stmt]) (turns ++ [turn]) := by
  refine ⟨hturn.uses, fun j s hj => ?_, fun j k s s' hj hk hne hpos => ?_⟩
  · rcases live_concat hj with hold | ⟨-, rfl⟩
    · exact hturn.holds j s hold
    · exact since_concat.mpr (Or.inl hissues)
  · rcases live_concat hj with hold | ⟨rfl, rfl⟩
    · rcases live_concat hk with hold' | ⟨rfl, rfl⟩
      · exact h.apart j k s s' hold hold' hne hpos
      · exact fun heq => h.alone_of_fresh hfresh hissues (heq ▸ hpos) j s hold heq
    · rcases live_concat hk with hold' | ⟨rfl, rfl⟩
      · exact (h.alone_of_fresh hfresh hissues hpos k s' hold').symm
      · exact absurd rfl hne

end Invariant

/-! ### Runs -/

/-- The statement an operation is about is one of the session. -/
theorem live_of_target {statements : List Statement} {op : Operation} {stmt : Statement}
    (h : op.target statements = some stmt) (hopen : stmt.closed = false) :
    ∃ i, Live statements i stmt := by
  cases op with
  | stmtExecute i params => exact ⟨i, h, hopen⟩
  | stmtQueryWith i params => exact ⟨i, h, hopen⟩
  | stmtClose i => exact ⟨i, h, hopen⟩
  | _ => cases h

/-- **Every turn of every operation** keeps the invariant, as long as the server keeps its
promise. -/
theorem turnRules_inUse (statements : List Statement) (op : Operation) :
    TurnRules (op.target statements) (fun turns => Fresh turns → InUse statements turns)
      (fun cursor turns => Fresh turns → Works statements cursor turns)
      (fun turns => Fresh turns → InUse statements turns)
      (fun stmt turns => Fresh turns → InUse (statements ++ [stmt]) turns)
      fun turns => ∀ i stmt', op = .stmtClose i → stmt'.closed = true → Fresh turns →
        InUse (statements.set i stmt') turns where
  prepareAndExecute turns turn sql autoCommit casInfo hI hrequest := by
    have hturn : Fresh (turns ++ [turn]) → InUse statements (turns ++ [turn]) := fun hfresh =>
      (hI hfresh.of_append).step_other hrequest (by decide) (by decide) (by decide)
    refine ⟨hturn, fun protoVersion r casInfo' hparse hfresh => ?_⟩
    have hhead := heads_parsePrepareAndExecute hparse
    have hissues : turn.Issues r.queryHandle :=
      ⟨Or.inr (by rw [hrequest]; exact functionByte_framed _ _ _), hhead.code_eq, hhead.code_nonneg⟩
    refine ⟨hturn hfresh, since_concat.mpr (Or.inl hissues), fun _ hpos => ?_⟩
    exact (hI hfresh.of_append).alone_of_fresh hfresh hissues hpos
  executeHandle turns turn stmt autoCommit casInfo htarget hopen hI hrequest hfresh := by
    obtain ⟨i, hlive⟩ := live_of_target htarget hopen
    have hinUse := hI hfresh.of_append
    have hholds := hinUse.holds i stmt hlive
    obtain ⟨arguments, hexecute⟩ := writeExecute_eq stmt.queryHandle stmt.statementType []
      autoCommit casInfo
    have hrequest := hrequest.trans hexecute
    refine ⟨hinUse.step_names hrequest hholds (by decide), ?_, nofun⟩
    exact since_concat.mpr (Or.inr ⟨hholds, not_closes hrequest (by decide)⟩)
  fetch turns turn cursor fetched casInfo hA hrequest hfresh := by
    have hworks := hA hfresh.of_append
    obtain ⟨arguments, hrequest⟩ := writeFetch_eq hrequest
    refine ⟨hworks.toInUse.step_names hrequest hworks.isOpen (by decide), ?_, hworks.alone⟩
    exact since_concat.mpr (Or.inr ⟨hworks.isOpen, not_closes hrequest (by decide)⟩)
  release turns turn cursor casInfo howned hpos hA hrequest hfresh :=
    have hworks := hA hfresh.of_append
    hworks.toInUse.step_closes hrequest hworks.isOpen (hworks.alone howned hpos)
  leave cursor turns hA hfresh := (hA hfresh).toInUse
  prepare turns turn sql autoCommit casInfo hI hrequest := by
    have hturn : Fresh (turns ++ [turn]) → InUse statements (turns ++ [turn]) := fun hfresh =>
      (hI hfresh.of_append).step_other hrequest (by decide) (by decide) (by decide)
    refine ⟨hturn, fun stmt r casInfo' hparse hhandle _ hfresh => ?_⟩
    have hhead := heads_parsePrepare hparse
    refine (hI hfresh.of_append).concat (hturn hfresh) hfresh ⟨Or.inl ?_, ?_, ?_⟩
    · rw [hrequest]
      exact functionByte_framed _ _ _
    · rw [hhandle]
      exact hhead.code_eq
    · rw [hhandle]
      exact hhead.code_nonneg
  endTran turns turn tranType casInfo hI hrequest hfresh :=
    (hI hfresh.of_append).step_other hrequest (by decide) (by decide) (by decide)
  ping turns turn autoCommit casInfo hI hrequest hfresh :=
    (hI hfresh.of_append).step_other hrequest (by decide) (by decide) (by decide)
  closeHandle turns turn stmt casInfo htarget hopen hpos hI hrequest := by
    rintro i stmt' rfl hclosed hfresh
    have hinUse := hI hfresh.of_append
    have hlive : Live statements i stmt := ⟨htarget, hopen⟩
    refine (hinUse.set i hclosed).step_closes hrequest (hinUse.holds i stmt hlive) ?_
    intro j s hj
    obtain ⟨hj, hne⟩ := live_set hclosed hj
    exact (hinUse.apart i j stmt s hlive hj hne.symm hpos).symm
  stay turns hI := hI

namespace Session

variable {network : Network} {s s' : Session Wire}

/-- **No handle is used after it has been closed.** On a network that responds, whatever the
responses: as long as the server assigns no handle that is open, each handle the client
names is open. And once the client is closed nothing is sent: whatever is called then, it
stays without a connection, and its socket is left as it was. -/
theorem reachable_usesOpen (hnet : network.Responsive)
    (hs : (lts (ConnectedTo network)).Reachable s) :
    (∀ conn, s.client.conn = some conn →
      ∃ turns, conn.stream.Held network turns ∧ (Fresh turns → UsesOpen turns)) ∧
    (∀ w, s.shut = some w → ∃ turns w₀ casInfo, Wire.Held network turns w₀ ∧
      (Fresh turns → UsesOpen turns) ∧ w = w₀.deliver (writeConClose casInfo)) ∧
    (s.client.conn = none → ∀ calls, (lts (ConnectedTo network)).run s calls = .ok s' →
      s'.client.conn = none ∧ s'.shut = s.shut) := by
  have htalk : s.InTalk network fun statements turns => Fresh turns → InUse statements turns := by
    refine reachable_inTalk hnet ?_ turnRules_inUse ?_ hs
    · exact fun _ => inUse_nil
    · exact fun statements i stmt' hclosed turns hI hfresh => (hI hfresh).set i hclosed
  refine ⟨fun conn hconn => ?_, fun w hw => ?_, fun hnone calls hrun => ?_⟩
  · rcases htalk with ⟨-, -, htalked⟩ | ⟨hnone, -⟩
    · obtain ⟨turns, hheld, hI⟩ := htalked conn hconn
      exact ⟨turns, hheld, fun hfresh => (hI hfresh).uses⟩
    · rw [hnone] at hconn
      cases hconn
  · rcases htalk with ⟨-, hshut, -⟩ | ⟨-, w', statements, hshut, turns, w₀, casInfo, hheld, hI, rfl⟩
    · rw [hshut] at hw
      cases hw
    · obtain rfl := Option.some.inj (hshut.symm.trans hw)
      exact ⟨turns, w₀, casInfo, hheld, fun hfresh => (hI hfresh).uses, rfl⟩
  · refine Lts.run_invariant (I := fun t => t.client.conn = none ∧ t.shut = s.shut) ?_
      ⟨hnone, rfl⟩ hrun
    intro t call t' ⟨hconn, hshut⟩ hstep
    obtain ⟨x, hperform⟩ := step_eq_ok.mp hstep
    obtain ⟨hnone', hkept⟩ := closed_of_perform hconn hperform
    exact ⟨hnone', hkept.trans hshut⟩

/-- A server that assigns the handle 3 to the statement of its first request. -/
def issuingNetwork : Network :=
  .ofServer fun number _ =>
    if number = 1 then
      ⟨(1, 2, 3, 4), [0, 0, 0, 3, 0, 0, 0, 0, 20, 0, 0, 0, 0, 0, 0, 0, 0, 0], by decide⟩
    else ⟨(1, 2, 3, 4), [0, 0, 0, 0, 0, 0, 0, 0, 0], by decide⟩

/-- A statement is prepared, executed, closed, and executed again. -/
def closedCalls : List (ℕ × Operation) :=
  [(0, .prepare ""), (0, .stmtExecute 0 []), (0, .stmtClose 0), (0, .stmtExecute 0 [])]

/-- The last call sends nothing, and each handle that has been named was open. -/
theorem reachable_usesOpen_closed : ∃ s conn turns,
    (lts (ConnectedTo issuingNetwork)).run
      (start ⟨Wire.new issuingNetwork, (0, 0, 0, 0)⟩ true 0) closedCalls = .ok s ∧
    s.client.conn = some conn ∧ conn.stream.Held issuingNetwork turns ∧ turns.length = 3 ∧
    Fresh turns ∧ UsesOpen turns := by
  have hnet : issuingNetwork.Responsive := Network.ofServer_responsive _
  -- the run is evaluated, and only the function codes of its requests are looked at
  have hcodes : (((lts (ConnectedTo issuingNetwork)).run
      (start ⟨Wire.new issuingNetwork, (0, 0, 0, 0)⟩ true 0) closedCalls).toOption.bind
        fun s => s.client.conn.map fun conn => (requests conn.stream.trace).map functionByte) =
      some [some FunctionCode.prepare.toU8, some FunctionCode.execute.toU8,
        some FunctionCode.closeReqHandle.toU8] := by
    decide +kernel
  obtain ⟨s, hrun, hcodes⟩ := Option.bind_eq_some_iff.mp hcodes
  have hrun := Outcome.toOption_eq_some.mp hrun
  obtain ⟨conn, hconn, hcodes⟩ := Option.map_eq_some_iff.mp hcodes
  obtain ⟨hopen, -⟩ :=
    @reachable_usesOpen issuingNetwork s s hnet ⟨_, closedCalls, ⟨_, _, _, rfl⟩, hrun⟩
  obtain ⟨turns, hheld, huses⟩ := hopen conn hconn
  rw [hheld.trace_eq, Turn.requests_trace, List.map_map] at hcodes
  obtain ⟨t₁, rest, rfl, -, hcodes⟩ := List.map_eq_cons_iff.mp hcodes
  obtain ⟨t₂, rest, rfl, h₂, hcodes⟩ := List.map_eq_cons_iff.mp hcodes
  obtain ⟨t₃, rest, rfl, h₃, hcodes⟩ := List.map_eq_cons_iff.mp hcodes
  obtain rfl := List.map_eq_nil_iff.mp hcodes
  have hfresh : Fresh ([] ++ [t₁] ++ [t₂] ++ [t₃]) := by
    refine each_concat.mpr ⟨each_concat.mpr ⟨each_concat.mpr ⟨each_nil, ?_⟩, ?_⟩, ?_⟩
    · exact fun _ _ _ => not_since_nil
    · exact fun _ _ hissues => absurd hissues (not_issues h₂ (by decide) (by decide))
    · exact fun _ _ hissues => absurd hissues (not_issues h₃ (by decide) (by decide))
  exact ⟨s, conn, [t₁, t₂, t₃], hrun, hconn, hheld, rfl, hfresh, huses hfresh⟩

end Session

end CubridDriver
