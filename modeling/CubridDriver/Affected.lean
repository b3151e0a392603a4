import Mathlib.Algebra.Order.BigOperators.Group.List
import Mathlib.Algebra.Order.Ring.Nat
import CubridDriver.Encode

/-!
# The number of affected rows

A response reports a count for each statement of a batch, a signed number, and the client
adds the counts up as unsigned ones. A count that is not negative is added as it is. A
negative one, which stands for an error, is cast to `u64` and becomes a huge number: alone
it is returned as the number of affected rows, together with others it overflows the sum.

`CubridDriver.affected_exact_iff` says that this is the only way the sum goes wrong.
-/

namespace CubridDriver

open Checked Prog Connection

/-! ### The sum -/

/-- The rows an entry stands for: none, if it is an error entry. -/
def ResultInfo.affected (info : ResultInfo) : ℕ := info.resultCount.toInt.toNat

/-- The rows a batch has affected. -/
def affectedCount (infos : List ResultInfo) : ℕ := (infos.map ResultInfo.affected).sum

/-- **The checked sum** of a list is its sum, if that fits. -/
theorem foldlM_checkedAddU64 {α ε : Type} (f : α → ℕ) (as : List α) {a n : ℕ} (ha : a < 2 ^ 64) :
    as.foldlM (fun sum x => checkedAddU64 sum (f x)) a = (.ok n : Outcome ε ℕ) ↔
      n = a + (as.map f).sum ∧ n < 2 ^ 64 := by
  induction as generalizing a with
  | nil =>
    rw [List.foldlM_nil, Outcome.pure_eq_ok, Outcome.ok.injEq, List.map_nil, List.sum_nil]
    omega
  | cons x as ih =>
    rw [List.foldlM_cons, List.map_cons, List.sum_cons, ← Nat.add_assoc]
    by_cases hfit : a + f x < 2 ^ 64
    · rw [checkedAddU64, if_pos hfit, Outcome.ok_bind, ih hfit]
    · rw [checkedAddU64, if_neg hfit, Outcome.panic_bind]
      constructor
      · intro h
        cases h
      · omega

theorem affected_le_asU64 (info : ResultInfo) : info.affected ≤ asU64 info.resultCount := by
  have := info.resultCount.toInt_lt
  have := info.resultCount.le_toInt
  rw [ResultInfo.affected, asU64]
  omega

/-- The cast is exact for what is not negative, and for nothing else. -/
theorem affected_eq_asU64_iff (info : ResultInfo) :
    info.affected = asU64 info.resultCount ↔ 0 ≤ info.resultCount.toInt := by
  have := info.resultCount.toInt_lt
  have := info.resultCount.le_toInt
  rw [ResultInfo.affected, asU64]
  omega

/-- A sum of upper bounds is the sum itself only if every bound is attained. -/
theorem sum_map_eq_iff {α : Type} {f g : α → ℕ} (hle : ∀ a, f a ≤ g a) (as : List α) :
    (as.map f).sum = (as.map g).sum ↔ ∀ a ∈ as, f a = g a := by
  induction as with
  | nil => simp
  | cons a as ih =>
    have hsum : (as.map f).sum ≤ (as.map g).sum := List.sum_le_sum fun b _ => hle b
    have ha := hle a
    rw [List.map_cons, List.map_cons, List.sum_cons, List.sum_cons, List.forall_mem_cons, ← ih]
    omega

theorem affectedCount_lt {infos : List ResultInfo} (h : infos.length < 2 ^ 31) :
    affectedCount infos < 2 ^ 64 := by
  have hbound : ∀ n ∈ infos.map ResultInfo.affected, n ≤ 2 ^ 31 := fun n hn => by
    obtain ⟨info, -, rfl⟩ := List.mem_map.mp hn
    have := info.resultCount.toInt_lt
    rw [ResultInfo.affected]
    omega
  have hsum := List.sum_le_card_nsmul _ _ hbound
  rw [List.length_map, Nat.nsmul_eq_mul] at hsum
  rw [affectedCount]
  omega

/-- **When the sum is right**: when there is no error entry. -/
theorem affectedRows_eq_iff {infos : List ResultInfo} (h : infos.length < 2 ^ 31) :
    affectedRows infos = .ok (affectedCount infos) ↔
      ∀ info ∈ infos, 0 ≤ info.resultCount.toInt := by
  have hlt := affectedCount_lt h
  rw [affectedRows, foldlM_checkedAddU64 _ _ (by decide), Nat.zero_add, and_iff_left hlt,
    affectedCount, sum_map_eq_iff affected_le_asU64]
  exact forall₂_congr fun info _ => affected_eq_asU64_iff info

/-! ### The responses -/

/-- There are fewer entries than a count can say. -/
theorem returns_length_parseResultInfos (count : Int32) :
    Returns (parseResultInfos count) fun infos => infos.length < 2 ^ 31 := by
  have := count.toInt_lt
  refine returns_then fun _ s infos t h => ?_
  have hlen : infos.length = count.toInt.toNat := returns_length_repeatM _ _ s infos t h
  omega

theorem length_parsePrepareAndExecute {data : Bytes} {protoVersion : Int32}
    {r : PrepareAndExecuteResult} {casInfo : CasInfo}
    (h : parsePrepareAndExecute data protoVersion = .ok (r, casInfo)) :
    r.resultInfos.length < 2 ^ 31 := by
  refine returns_packet (C := fun x => x.1.resultInfos.length < 2 ^ 31) ?_ h
  refine returns_then fun _ => returns_then fun _ => returns_then fun _ => returns_then fun _ => ?_
  refine returns_then fun _ => returns_then fun _ => returns_then fun _ => returns_then fun _ => ?_
  refine returns_then fun _ => returns_then fun _ => ?_
  refine returns_bind (returns_length_parseResultInfos _) fun infos hlen => ?_
  exact returns_then fun _ => returns_then fun _ => returns_pure hlen

theorem length_parseExecute {data : Bytes} {columns : Columns} {stmtType : StatementType}
    {protoVersion : Int32} {r : ExecuteResult} {casInfo : CasInfo}
    (h : parseExecute data columns stmtType protoVersion = .ok (r, casInfo)) :
    r.resultInfos.length < 2 ^ 31 := by
  refine returns_packet (C := fun x => x.1.resultInfos.length < 2 ^ 31) ?_ h
  refine returns_then fun _ => returns_then fun _ => returns_then fun _ => ?_
  refine returns_bind (returns_length_parseResultInfos _) fun infos hlen => ?_
  exact returns_then fun _ => returns_then fun _ => returns_pure hlen

/-! ### The operations -/

section Operations

variable {τ : Type} [Socket τ] {client client₁ : Client τ}

theorem ofIo_ne_panic {α : Type} (x : Except IoError α) : ofIo x ≠ .panic := by
  cases x <;> simp [ofIo]

theorem sendFramed_ends (data : List UInt8) (conn : Connection τ) :
    Ends (sendFramed data) conn fun _ => True :=
  ⟨_, _, rfl, ofIo_ne_panic _, trivial⟩

theorem readExactBytes_ends_any (count : ℕ) (conn : Connection τ) :
    Ends (readExactBytes count) conn fun _ => True :=
  ⟨_, _, rfl, ofIo_ne_panic _, trivial⟩

/-- **The closing of a query handle** is never what a call fails by. -/
theorem closeQueryHandle_ends (handle : Int32) (client : Client τ) :
    ∃ client', Client.closeQueryHandle handle client = some (.ok (), client') := by
  suffices h : ∃ client', Client.closeQueryHandle handle client = some (.ok (), client') ∧ True from
    h.imp fun _ => And.left
  refine Ends.ignoreErr (ends_onConn (fun conn => ?_) client)
  refine Ends.bind (R := fun _ => True) ⟨_, _, rfl, nofun, trivial⟩ fun _ conn _ => ?_
  refine (sendFramed_ends _ conn).bind fun _ conn _ => ?_
  refine Ends.bind (R := fun _ => True) ?_ fun resp conn _ => ?_
  · refine (readExactBytes_ends_any 4 conn).bind fun lenBuf conn _ => ?_
    exact (readExactBytes_ends_any _ conn).bind fun data conn _ => Ends.ret _ trivial
  -- whether or not the response parses
  · refine Ends.bind (R := fun _ => True) ⟨_, _, rfl, ?_, trivial⟩ fun _ conn _ =>
      Ends.ret _ trivial
    exact mt Outcome.mapErr_eq_panic.mp (parseSimpleResponse_ne_panic resp)

theorem releaseHandle_ends (handle : Int32) (client : Client τ) :
    ∃ client', Client.releaseHandle handle client = some (.ok (), client') := by
  rw [Client.releaseHandle]
  split
  · exact closeQueryHandle_ends handle client
  · exact ⟨client, rfl⟩

/-- A call of `execute`, by a client or on a prepared statement, that has been answered: it
has the entries of the response to add up. -/
inductive Answered (client : Client τ) : Prog (Client τ) Error ℕ → List ResultInfo → Prop
  /-- By a client, in one exchange. -/
  | client {sql : String} {params : List Value} {r : PrepareAndExecuteResult}
      {client₁ : Client τ}
      (answer : Client.prepareAndExecute sql params client = some (.ok r, client₁)) :
      Answered client (Client.execute sql params) r.resultInfos
  /-- On a prepared statement, by its handle. -/
  | statement {stmt : Statement} {r : ExecuteResult} {client₁ : Client τ}
      (isOpen : stmt.closed = false) (answer : stmt.executeHandle client = some (.ok r, client₁)) :
      Answered client (stmt.execute []) r.resultInfos
  /-- On a prepared statement, by its text, since there are parameters. -/
  | text {stmt : Statement} {params : List Value} {r : PrepareAndExecuteResult}
      {client₁ : Client τ} (isOpen : stmt.closed = false) (hparams : params ≠ [])
      (answer : Client.prepareAndExecute stmt.sql params client = some (.ok r, client₁)) :
      Answered client (stmt.execute params) r.resultInfos

/-- **What `execute` returns** when it has been answered is the sum. -/
theorem execute_eq {sql : String} {params : List Value} {r : PrepareAndExecuteResult}
    (h : Client.prepareAndExecute sql params client = some (.ok r, client₁)) :
    ∃ client₂, Client.execute sql params client = some (affectedRows r.resultInfos, client₂) := by
  obtain ⟨client₂, hrelease⟩ := releaseHandle_ends r.queryHandle client₁
  refine ⟨client₂, ?_⟩
  rw [Client.execute, bind_ok h, bind_ok hrelease]
  rfl

theorem length_prepareAndExecute {sql : String} {params : List Value} {r : PrepareAndExecuteResult}
    (h : Client.prepareAndExecute sql params client = some (.ok r, client₁)) :
    r.resultInfos.length < 2 ^ 31 := by
  obtain ⟨_, _, -, hexchange⟩ := bind_eq_ok.mp h
  obtain ⟨resp, casInfo, hparse⟩ := parsed_of_exchange hexchange
  exact length_parsePrepareAndExecute hparse

/-- An answered call ends with the sum of its entries, of which there are not too many. -/
theorem Answered.ends {call : Prog (Client τ) Error ℕ} {infos : List ResultInfo}
    (h : Answered client call infos) : infos.length < 2 ^ 31 ∧
      ∃ client', call client = some (affectedRows infos, client') := by
  cases h with
  | client answer => exact ⟨length_prepareAndExecute answer, execute_eq answer⟩
  | @statement stmt r client₁ isOpen answer =>
    constructor
    · obtain ⟨_, _, -, hexchange⟩ := bind_eq_ok.mp answer
      obtain ⟨resp, casInfo, hparse⟩ := parsed_of_exchange hexchange
      exact length_parseExecute hparse
    · refine ⟨client₁, ?_⟩
      rw [Statement.execute, isOpen, if_neg (by simp), if_neg (by simp), bind_ok answer]
      rfl
  | @text stmt params r client₁ isOpen hparams answer =>
    refine ⟨length_prepareAndExecute answer, ?_⟩
    rw [Statement.execute, isOpen, if_neg (by simp), if_pos hparams]
    exact execute_eq answer

/-- **The number of affected rows is exact** when the response has no error entry, and only
then. -/
theorem affected_exact_iff {call : Prog (Client τ) Error ℕ} {infos : List ResultInfo}
    (h : Answered client call infos) :
    (∃ client', call client = some (.ok (affectedCount infos), client')) ↔
      ∀ info ∈ infos, 0 ≤ info.resultCount.toInt := by
  obtain ⟨hlen, client', hcall⟩ := h.ends
  rw [← affectedRows_eq_iff hlen, hcall]
  constructor
  · rintro ⟨_, heq⟩
    exact (Prod.mk.inj (Option.some.inj heq)).1
  · intro hsum
    exact ⟨client', by rw [hsum]⟩

end Operations

/-! ### Servers with one response -/

namespace OneReply

variable (r : PrepareAndExecuteResult)

/-- What is sent behind the token. -/
def body : List UInt8 := (encodePrepareAndExecute 0 (9, 8, 7, 6) r).drop 4

variable {r} (hlen : (body r).length < 2 ^ 32)

/-- The response. -/
def frame : Frame := ⟨(9, 8, 7, 6), body r, hlen⟩

/-- A server that sends nothing else. -/
def network : Network := .ofServer fun _ _ => frame hlen

/-- A client of the server. -/
def client : Client Wire := Client.connected (Wire.new (network hlen))

theorem ready : Ready (network hlen) (client hlen) := ⟨_, rfl, rfl, rfl⟩

theorem parsed (h : r.Encodable) (resp : Bytes) (hresp : resp.1 = (frame hlen).data) :
    parsePrepareAndExecute resp 0 = .ok (r, (9, 8, 7, 6)) := by
  refine parsePrepareAndExecute_format ?_
  rw [hresp]
  exact encodePrepareAndExecute_mem h 0 (9, 8, 7, 6)

/-- Whatever the text, the response is what it is answered by. -/
theorem answer (h : r.Encodable) (sql : String) : ∃ client₁,
    Client.prepareAndExecute sql [] (client hlen) = some (.ok r, client₁) := by
  have hanswer : ∃ r' client₁, Client.prepareAndExecute sql [] (client hlen) =
      some (.ok r', client₁) ∧ Ready (network hlen) client₁ ∧
        fetches (sent client₁) = fetches (sent (client hlen)) ∧ r' = r := by
    rw [Client.prepareAndExecute, bind_ok (t := client hlen) (a := client hlen) rfl]
    refine exchange_ready (ready hlen) (fun _ => rfl) (by decide) fun _ _ _ => ?_
    exact ⟨frame hlen, (9, 8, 7, 6), r, rfl, parsed hlen h, rfl⟩
  obtain ⟨_, client₁, hclient₁, -, -, rfl⟩ := hanswer
  exact ⟨client₁, hclient₁⟩

end OneReply

/-- The response to a batch that returns no rows. -/
def batchResult (infos : List ResultInfo) : PrepareAndExecuteResult where
  queryHandle := 0
  statementType := .delete
  bindCount := 0
  columns := ⟨[], by decide⟩
  totalTupleCount := 0
  resultInfos := infos
  tupleCount := 0
  rows := []

theorem encodable_batchResult {infos : List ResultInfo} (hlen : infos.length < 2 ^ 31)
    (hoid : ∀ info ∈ infos, info.oid.length = SIZE_OID) : (batchResult infos).Encodable where
  queryHandle := Int32.le_refl 0
  columns_lt := (by decide : 0 < 2 ^ 31)
  columns := fun _ h => absurd h List.not_mem_nil
  resultInfos_lt := hlen
  resultInfos := hoid
  select := Or.inr rfl
  rows_lt := (by decide : 0 < 2 ^ 31)
  rows := fun _ h => absurd h List.not_mem_nil
  tupleCount := rfl

/-! ### A batch with an error entry -/

namespace ErrorEntry

/-- The entry of a statement that failed. -/
def info : ResultInfo := ⟨.delete, -1, List.replicate SIZE_OID 0⟩

/-- The response to a batch of one statement, which failed. -/
def result : PrepareAndExecuteResult := batchResult [info]

theorem length_body : (OneReply.body result).length < 2 ^ 32 := by decide

/-- A client of a server that sends nothing else. -/
def client : Client Wire := OneReply.client length_body

theorem answer : ∃ client₁,
    Client.prepareAndExecute "DELETE FROM t" [] client = some (.ok result, client₁) :=
  OneReply.answer length_body (encodable_batchResult (by decide) (by simp [info])) _

end ErrorEntry

/-! ### A batch without -/

namespace Counted

/-- Three statements. -/
def batch : String := "DELETE FROM a; DELETE FROM b; DELETE FROM c"

/-- Their entries. One of them had nothing to change. -/
def infos : List ResultInfo :=
  [⟨.delete, 2, List.replicate SIZE_OID 0⟩, ⟨.delete, 0, List.replicate SIZE_OID 0⟩,
    ⟨.delete, 5, List.replicate SIZE_OID 0⟩]

theorem length_body : (OneReply.body (batchResult infos)).length < 2 ^ 32 := by decide

/-- A client of a server that sends nothing else. -/
def client : Client Wire := OneReply.client length_body

theorem answer : ∃ client₁, Client.prepareAndExecute batch [] client =
    some (.ok (batchResult infos), client₁) :=
  OneReply.answer length_body (encodable_batchResult (by decide) (by simp [infos])) _

end Counted

/-- The batch with the error entry is not counted right, and the other one is. -/
theorem affected_exact_iff_errorEntry :
    ((∃ client', Client.execute "DELETE FROM t" [] ErrorEntry.client =
        some (.ok 0, client')) ↔
      ∀ info ∈ ErrorEntry.result.resultInfos, 0 ≤ info.resultCount.toInt) ∧
    ∃ client', Client.execute Counted.batch [] Counted.client = some (.ok 7, client') := by
  obtain ⟨_, herror⟩ := ErrorEntry.answer
  obtain ⟨_, hcounted⟩ := Counted.answer
  have hcounts : ∀ info ∈ (batchResult Counted.infos).resultInfos, 0 ≤ info.resultCount.toInt := by
    simp [batchResult, Counted.infos]
  exact ⟨affected_exact_iff (.client herror), (affected_exact_iff (.client hcounted)).mpr hcounts⟩

open ErrorEntry in
/-- A statement that fails affects `u64::MAX` rows. -/
theorem execute_errorEntry : ∃ client', affectedCount result.resultInfos = 0 ∧
    Client.execute "DELETE FROM t" [] client = some (.ok (2 ^ 64 - 1), client') := by
  obtain ⟨_, hanswer⟩ := answer
  obtain ⟨client', hexecute⟩ := execute_eq hanswer
  exact ⟨client', rfl, hexecute⟩

end CubridDriver
