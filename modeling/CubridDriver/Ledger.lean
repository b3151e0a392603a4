import CubridDriver.Equivalence
import Mathlib.Data.Set.Insert

/-!
# The handles of a session

A server keeps something for every handle that it has assigned, until the handle is closed. The
driver asks for handles in two ways. A statement that is prepared keeps its handle until it is
closed; a text that is executed or queried has one for as long as the call takes.

So the handles in use should be those of the statements that have been prepared and not been
closed, after any session: `CubridDriver.Session.handles_owned`. The one way to lose a handle is
a query that fails while it fetches its rows.

The books are kept without a wire, where a call of the database is one step, and
`CubridDriver.Session.relates_perform` carries them over.
-/

namespace CubridDriver

open Prog

/-! ### Databases that keep books -/

/-- The handle that an answer assigns. -/
def Call.opened : (c : Call) → c.Answer → Option Int32
  | .prepareAndExecute .., r => some r.queryHandle
  | .prepare .., r => some r.queryHandle
  | .execute .., _ | .fetch .., _ | .getLastInsertId, _ | .getDbVersion _, _
  | .closeReqHandle _, _ | .endTran _, _ | .conClose, _ => none

namespace Database

variable {δ : Type} (D : Database δ)

/-- A handle is in use. -/
def Holds (db : δ) (handle : Int32) : Prop := (D.info db handle).isSome

/-- The database assigns a positive handle, and only when it is asked for one; and it closes a
handle that is in use. -/
structure Tidy : Prop where
  positive : ∀ {db handle}, D.Holds db handle → 0 < handle
  opens : ∀ {c db handle}, D.Holds (D.call c db).2 handle →
    D.Holds db handle ∨ ∃ a, (D.call c db).1 = .ok a ∧ c.opened a = some handle
  closes : ∀ {db handle}, D.Holds db handle → (D.call (.closeReqHandle handle) db).1 = .ok () ∧
    ¬D.Holds (D.call (.closeReqHandle handle) db).2 handle

/-- As long as the client is connected, the handles in use are these. -/
def InUse (H : Set Int32) (d : Direct δ) : Prop :=
  d.connected = true → ∀ handle, D.Holds d.db handle ↔ handle ∈ H

/-- The handles in use are these, and another one. -/
def OneMore (H : Set Int32) (d : Direct δ) : Prop :=
  ∃ handle ∉ H, D.InUse (insert handle H) d

variable {D} {H : Set Int32}

/-- A handle that is in use stays so. -/
theorem Holds.call {db : δ} {handle : Int32} (h : D.Holds db handle) {c : Call}
    (hclose : c ≠ .closeReqHandle handle) (hlast : c ≠ .conClose) :
    D.Holds (D.call c db).2 handle := by
  obtain ⟨i, hi⟩ := Option.isSome_iff_exists.mp h
  exact Option.isSome_iff_exists.mpr ⟨i, D.info_call hi hclose hlast⟩

/-- A handle that is assigned was not in use, and is in use then. -/
theorem holds_of_opened {c : Call} {db db' : δ} {a : c.Answer} {handle : Int32}
    (hcall : D.call c db = (.ok a, db')) (hopened : c.opened a = some handle) :
    ¬D.Holds db handle ∧ D.Holds db' handle := by
  cases c with
  | prepareAndExecute sql autoCommit =>
    obtain rfl := Option.some.inj hopened
    obtain ⟨hbefore, hafter⟩ := D.info_prepareAndExecute hcall
    exact ⟨by rw [Holds, hbefore]; exact Bool.false_ne_true, by rw [Holds, hafter]; rfl⟩
  | prepare sql autoCommit =>
    obtain rfl := Option.some.inj hopened
    obtain ⟨hbefore, hafter⟩ := D.info_prepare hcall
    exact ⟨by rw [Holds, hbefore]; exact Bool.false_ne_true, by rw [Holds, hafter]; rfl⟩
  | _ => cases hopened

/-! ### Calls -/

section Calls

variable (htidy : D.Tidy)
include htidy

/-- **A call** that closes nothing adds the handle it has got. -/
theorem triple_ask {c : Call} (hclose : ∀ handle, c ≠ .closeReqHandle handle)
    (hlast : c ≠ .conClose) :
    Triple (D.InUse H) (D.ask c)
      (fun a d => D.InUse (H ∪ {handle | c.opened a = some handle}) d ∧
        ∀ handle, c.opened a = some handle → handle ∉ H) (D.InUse H) := by
  intro d x d' hd hx
  rw [ask] at hx
  split at hx
  · rename_i hopen
    have hiff := hd hopen
    rcases hcall : D.call c d.db with ⟨⟨code, message⟩ | a, db'⟩
    · rw [hcall] at hx
      obtain ⟨rfl, rfl⟩ := Prod.mk.inj (Option.some.inj hx)
      refine fun _ handle => ⟨fun h => ?_, fun h => ?_⟩
      · have hopens := @Tidy.opens _ _ htidy c d.db handle
        rw [hcall] at hopens
        rcases hopens h with hold | ⟨a, ha, -⟩
        · exact (hiff handle).mp hold
        · cases ha
      · have hkept := ((hiff handle).mpr h).call (hclose handle) hlast
        rwa [hcall] at hkept
    · rw [hcall] at hx
      obtain ⟨rfl, rfl⟩ := Prod.mk.inj (Option.some.inj hx)
      refine ⟨fun _ handle => ⟨fun h => ?_, fun h => ?_⟩, fun handle hopened hmem => ?_⟩
      · have hopens := @Tidy.opens _ _ htidy c d.db handle
        rw [hcall] at hopens
        rcases hopens h with hold | ⟨a', ha, hopened⟩
        · exact .inl ((hiff handle).mp hold)
        · obtain rfl := Except.ok.inj ha
          exact .inr hopened
      · rcases h with hmem | hopened
        · have hkept := ((hiff handle).mpr hmem).call (hclose handle) hlast
          rwa [hcall] at hkept
        · exact (holds_of_opened hcall hopened).2
      · exact (holds_of_opened hcall hopened).1 ((hiff handle).mpr hmem)
  · obtain ⟨rfl, rfl⟩ := Prod.mk.inj (Option.some.inj hx)
    exact hd

/-- A call that is about something else leaves the handles alone. -/
theorem triple_ask_other {c : Call} (hclose : ∀ handle, c ≠ .closeReqHandle handle)
    (hlast : c ≠ .conClose) (hopened : ∀ a, c.opened a = none) :
    Triple (D.InUse H) (D.ask c) (fun _ => D.InUse H) (D.InUse H) := by
  refine triple_post (triple_ask htidy hclose hlast) fun a d h => ?_
  have hset : {handle | c.opened a = some handle} = (∅ : Set Int32) := by
    rw [hopened]
    exact Set.eq_empty_of_forall_notMem fun _ => nofun
  rw [hset, Set.union_empty] at h
  exact h.1

/-- **A handle is closed.** -/
theorem triple_closeHandle {handle : Int32} (hmem : handle ∈ H) {E : Direct δ → Prop} :
    Triple (D.InUse H) (D.closeHandle handle) (fun _ => D.InUse (H \ {handle})) E := by
  refine triple_mono (triple_iff_ensures.mpr (ensures_ignoreErr (R := D.InUse (H \ {handle})) ?_))
    (fun _ h => h) (fun _ _ h => h) fun _ h => False.elim h
  intro d x d' hd hx
  rw [ask] at hx
  split at hx
  · rename_i hopen
    have hiff := hd hopen
    obtain ⟨hok, hgone⟩ := htidy.closes ((hiff handle).mpr hmem)
    have hafter : D.InUse (H \ {handle})
        { d with db := (D.call (.closeReqHandle handle) d.db).2 } := by
      refine fun _ other => ⟨fun h => ?_, fun h => ?_⟩
      · refine ⟨?_, fun heq => hgone (Set.mem_singleton_iff.mp heq ▸ h)⟩
        rcases htidy.opens h with hold | ⟨a, -, hopened⟩
        · exact (hiff other).mp hold
        · cases hopened
      · refine ((hiff other).mpr h.1).call (fun heq => h.2 ?_) fun heq => by cases heq
        exact (Call.closeReqHandle.inj heq).symm
    obtain ⟨rfl, rfl⟩ := Prod.mk.inj (Option.some.inj hx)
    rw [hok]
    exact hafter
  · rename_i hclosed
    obtain ⟨rfl, rfl⟩ := Prod.mk.inj (Option.some.inj hx)
    exact fun hopen => absurd hopen hclosed

/-- A handle that has been assigned is closed. -/
theorem triple_releaseHandle {handle : Int32} (hmem : handle ∈ H) {E : Direct δ → Prop} :
    Triple (D.InUse H) (D.releaseHandle handle) (fun _ => D.InUse (H \ {handle})) E := by
  refine triple_ite (fun _ => triple_closeHandle htidy hmem) fun hnot => ?_
  refine triple_pure fun d hd hopen => ?_
  exact absurd (htidy.positive ((hd hopen handle).mpr hmem)) hnot

/-! ### Operations of the client -/

theorem triple_fetch (cursor : Cursor) (fetched : Int32) :
    Triple (D.InUse H) (D.fetch cursor fetched) (fun _ => D.InUse H) (D.InUse H) := by
  refine triple_bind triple_get fun d => ?_
  refine triple_pre (P := fun s => D.InUse H s ∧ s = d) ?_ fun _ h => h.1
  refine triple_ite (fun _ => ?_) fun _ => triple_throw fun _ h => h
  refine triple_bind (Q := fun _ => D.InUse H) (triple_lift (fun _ _ _ h => h) fun _ h => h)
    fun start => ?_
  exact triple_ask_other htidy nofun nofun fun _ => rfl

theorem triple_fetchLoop (cursor : Cursor) (totalCount : Int32) (fuel : ℕ) :
    ∀ (fetchedCount : Int32) (rows : List Row),
      Triple (D.InUse H) (D.fetchLoop cursor totalCount fuel fetchedCount rows)
        (fun _ => D.InUse H) (D.InUse H) := by
  induction fuel with
  | zero => exact fun _ _ _ _ _ _ h => by cases h
  | succ fuel ih =>
    intro fetchedCount rows
    refine triple_ite (fun _ => ?_) fun _ => triple_pure fun _ h => h
    refine triple_bind (triple_fetch htidy cursor fetchedCount) fun batch => ?_
    refine triple_ite (fun _ => triple_pure fun _ h => h) fun _ => ?_
    exact triple_bind (Q := fun _ => D.InUse H) (triple_lift (fun _ _ _ h => h) fun _ h => h)
      fun count => ih count (rows ++ batch.rows)

theorem triple_fetchIfNeeded (fuel : ℕ) (cursor : Cursor) (totalCount : Int32)
    (rows : List Row) :
    Triple (D.InUse H) (D.fetchIfNeeded fuel cursor totalCount rows) (fun _ => D.InUse H)
      (D.InUse H) :=
  triple_ite (fun _ => triple_fetchLoop htidy cursor totalCount fuel _ rows)
    fun _ => triple_pure fun _ h => h

/-- A text that is executed gets a handle of its own. -/
theorem triple_prepareAndExecute (sql : String) (params : List Value) :
    Triple (D.InUse H) (D.prepareAndExecute sql params)
      (fun r d => r.queryHandle ∉ H ∧ D.InUse (insert r.queryHandle H) d) (D.InUse H) := by
  refine triple_bind triple_get fun d => ?_
  refine triple_pre (P := fun s => D.InUse H s ∧ s = d) ?_ fun _ h => h.1
  refine triple_post (triple_ask htidy nofun nofun) fun r d h => ⟨h.2 _ rfl, ?_⟩
  have hset : H ∪ {handle | some r.queryHandle = some handle} = insert r.queryHandle H := by
    ext handle
    simp [eq_comm]
  exact hset ▸ h.1

/-- And gives it back. -/
theorem triple_release {r : PrepareAndExecuteResult} {E : Direct δ → Prop} :
    Triple (fun d => r.queryHandle ∉ H ∧ D.InUse (insert r.queryHandle H) d)
      (D.releaseHandle r.queryHandle) (fun _ => D.InUse H) E := by
  intro d x d' ⟨hnot, hd⟩ hx
  have hset : insert r.queryHandle H \ {r.queryHandle} = H := by
    ext handle
    refine ⟨fun h => h.1.resolve_left h.2, fun h => ⟨.inr h, ?_⟩⟩
    rintro rfl
    exact hnot h
  have hrelease := triple_releaseHandle htidy (Set.mem_insert r.queryHandle H) (E := E)
  rw [hset] at hrelease
  exact hrelease d x d' hd hx

theorem triple_execute (sql : String) (params : List Value) :
    Triple (D.InUse H) (D.execute sql params) (fun _ => D.InUse H) (D.InUse H) := by
  refine triple_bind (triple_prepareAndExecute htidy sql params) fun r => ?_
  exact triple_bind (triple_release htidy) fun _ => triple_lift (fun _ _ _ h => h) fun _ h => h

/-- **A query** gives its handle back, unless it fails while it fetches its rows. -/
theorem triple_query (fuel : ℕ) (sql : String) (params : List Value) :
    Triple (D.InUse H) (D.query fuel sql params) (fun _ => D.InUse H)
      (fun d => D.InUse H d ∨ D.OneMore H d) := by
  refine triple_bind (triple_mono (triple_prepareAndExecute htidy sql params) (fun _ h => h)
    (fun _ _ h => h) fun _ h => .inl h) fun r => ?_
  -- while the rows are fetched, the handle is one more
  have hfetch : Triple (fun d => r.queryHandle ∉ H ∧ D.InUse (insert r.queryHandle H) d)
      (D.fetchIfNeeded fuel r.cursor r.totalTupleCount r.rows)
      (fun _ d => r.queryHandle ∉ H ∧ D.InUse (insert r.queryHandle H) d)
      (fun d => D.InUse H d ∨ D.OneMore H d) := by
    intro d x d' ⟨hnot, hd⟩ hx
    have hfetched := triple_fetchIfNeeded htidy fuel r.cursor r.totalTupleCount r.rows d x d' hd hx
    cases x with
    | ok rows => exact ⟨hnot, hfetched⟩
    | err e => exact .inr ⟨_, hnot, hfetched⟩
    | panic => exact .inr ⟨_, hnot, hfetched⟩
  refine triple_bind hfetch fun rows => ?_
  exact triple_bind (triple_release htidy) fun _ => triple_pure fun _ h => h

/-- A statement that is prepared has a handle of its own. -/
theorem triple_prepare (sql : String) :
    Triple (D.InUse H) (D.prepare sql)
      (fun stmt d => stmt.queryHandle ∉ H ∧ D.InUse (insert stmt.queryHandle H) d ∧
        stmt.closed = false) (D.InUse H) := by
  refine triple_bind triple_get fun d => ?_
  refine triple_pre (P := fun s => D.InUse H s ∧ s = d) ?_ fun _ h => h.1
  refine triple_bind (triple_ask htidy nofun nofun) fun r => triple_pure fun d h => ?_
  have hset : H ∪ {handle | some r.queryHandle = some handle} = insert r.queryHandle H := by
    ext handle
    simp [eq_comm]
  exact ⟨h.2 _ rfl, hset ▸ h.1, rfl⟩

theorem triple_ping : Triple (D.InUse H) D.ping (fun _ => D.InUse H) (D.InUse H) := by
  refine triple_bind triple_get fun d => ?_
  refine triple_pre (P := fun s => D.InUse H s ∧ s = d) ?_ fun _ h => h.1
  exact triple_ask_other htidy nofun nofun fun _ => rfl

theorem triple_endTran (tranType : TransactionType) :
    Triple (D.InUse H) (D.ask (.endTran tranType)) (fun _ => D.InUse H) (D.InUse H) :=
  triple_ask_other htidy nofun nofun fun _ => rfl

/-! ### Operations of a statement -/

theorem triple_executeHandle (stmt : Statement) :
    Triple (D.InUse H) (D.executeHandle stmt) (fun _ => D.InUse H) (D.InUse H) := by
  refine triple_bind triple_get fun d => ?_
  refine triple_pre (P := fun s => D.InUse H s ∧ s = d) ?_ fun _ h => h.1
  exact triple_ask_other htidy nofun nofun fun _ => rfl

theorem triple_stmtExecute (stmt : Statement) (params : List Value) :
    Triple (D.InUse H) (D.stmtExecute stmt params) (fun _ => D.InUse H) (D.InUse H) := by
  refine triple_ite (fun _ => triple_throw fun _ h => h) fun _ => ?_
  refine triple_ite (fun _ => triple_execute htidy stmt.sql params) fun _ => ?_
  exact triple_bind (triple_executeHandle htidy stmt) fun r =>
    triple_lift (fun _ _ _ h => h) fun _ h => h

/-- A statement fetches its rows by its own handle; with parameters, it is a query. -/
theorem triple_stmtQueryWith (fuel : ℕ) (stmt : Statement) (params : List Value) :
    Triple (D.InUse H) (D.stmtQueryWith fuel stmt params) (fun _ => D.InUse H)
      (fun d => D.InUse H d ∨ params ≠ [] ∧ D.OneMore H d) := by
  refine triple_ite (fun _ => triple_throw fun _ h => .inl h) fun _ => ?_
  refine triple_ite (fun hparams => ?_) fun _ => ?_
  · exact triple_mono (triple_query htidy fuel stmt.sql params) (fun _ h => h) (fun _ _ h => h)
      fun _ h => h.imp_right fun hmore => ⟨hparams, hmore⟩
  · refine triple_bind (triple_mono (triple_executeHandle htidy stmt) (fun _ h => h)
      (fun _ _ h => h) fun _ h => .inl h) fun r => ?_
    refine triple_bind (triple_mono (triple_fetchIfNeeded htidy fuel stmt.cursor r.totalTupleCount
      r.rows) (fun _ h => h) (fun _ _ h => h) fun _ h => .inl h) fun rows => ?_
    exact triple_pure fun _ h => h

/-- **A statement that is closed** gives its handle back. -/
theorem triple_stmtClose {stmt : Statement} (hmem : stmt.closed = false → stmt.queryHandle ∈ H)
    {E : Direct δ → Prop} :
    Triple (D.InUse H) (D.stmtClose stmt)
      (fun stmt' d => stmt'.closed = true ∧
        D.InUse (if stmt.closed then H else H \ {stmt.queryHandle}) d) E := by
  rw [stmtClose]
  cases hclosed : stmt.closed with
  | true => exact triple_pure fun d hd => ⟨hclosed, hd⟩
  | false =>
    have hclose := triple_releaseHandle htidy (hmem hclosed) (E := E)
    rw [releaseHandle] at hclose
    simp only [Bool.false_eq_true, if_false] at hclose ⊢
    by_cases hpos : stmt.queryHandle > 0
    · rw [if_pos hpos] at hclose ⊢
      exact triple_bind hclose fun _ => triple_pure fun _ h => ⟨rfl, h⟩
    · rw [if_neg hpos] at hclose ⊢
      exact triple_pure fun d hd => ⟨rfl, hclose d _ d hd rfl⟩

end Calls

end Database

/-! ### Sessions -/

/-- The handles of the statements that have not been closed. -/
def openHandles (statements : List Statement) : Set Int32 :=
  {handle | ∃ stmt ∈ statements, stmt.closed = false ∧ stmt.queryHandle = handle}

theorem openHandles_concat {statements : List Statement} {stmt : Statement}
    (hopen : stmt.closed = false) :
    openHandles (statements ++ [stmt]) = insert stmt.queryHandle (openHandles statements) := by
  ext handle
  constructor
  · rintro ⟨other, hother, hotherOpen, rfl⟩
    rcases List.mem_append.mp hother with hother | hother
    · exact .inr ⟨other, hother, hotherOpen, rfl⟩
    · exact .inl (congrArg _ (List.mem_singleton.mp hother))
  · rintro (rfl | ⟨other, hother, hotherOpen, rfl⟩)
    · exact ⟨stmt, List.mem_append_right _ (List.mem_singleton_self _), hopen, rfl⟩
    · exact ⟨other, List.mem_append_left _ hother, hotherOpen, rfl⟩

/-- When a statement is closed, its handle is the one that is not open any more. -/
theorem openHandles_set {statements : List Statement} (hdistinct : Distinct statements) {i : ℕ}
    {stmt stmt' : Statement} (hstmt : statements[i]? = some stmt) (hclosed : stmt'.closed = true) :
    openHandles (statements.set i stmt') =
      if stmt.closed then openHandles statements
      else openHandles statements \ {stmt.queryHandle} := by
  obtain ⟨hi, rfl⟩ := List.getElem?_eq_some_iff.mp hstmt
  -- a statement that is open afterwards was there, and at another place
  have hset : ∀ other, other.closed = false →
      (other ∈ statements.set i stmt' ↔ ∃ j, j ≠ i ∧ statements[j]? = some other) := by
    intro other hopen
    constructor
    · intro hmem
      obtain ⟨j, hj⟩ := List.getElem?_of_mem hmem
      have hij : i ≠ j := by
        rintro rfl
        rw [List.getElem?_set_self hi] at hj
        rw [← Option.some.inj hj, hclosed] at hopen
        cases hopen
      rw [List.getElem?_set_ne hij] at hj
      exact ⟨j, hij.symm, hj⟩
    · rintro ⟨j, hij, hj⟩
      rw [← List.getElem?_set_ne hij.symm (a := stmt')] at hj
      exact List.mem_of_getElem? hj
  ext handle
  constructor
  · rintro ⟨other, hmem, hopen, rfl⟩
    have hother : other.queryHandle ∈ openHandles statements := by
      obtain ⟨j, -, hj⟩ := (hset other hopen).mp hmem
      exact ⟨other, List.mem_of_getElem? hj, hopen, rfl⟩
    split
    · exact hother
    · exact ⟨hother, hdistinct.ne_of_mem_set hi (Bool.eq_false_iff.mpr ‹_›) hclosed hmem hopen⟩
  · intro hmem
    have hkept : ∀ other ∈ statements, other.closed = false →
        (statements[i].closed = false → other.queryHandle ≠ statements[i].queryHandle) →
        other.queryHandle ∈ openHandles (statements.set i stmt') := by
      intro other hother hopen hne
      obtain ⟨j, hj⟩ := List.getElem?_of_mem hother
      refine ⟨other, (hset other hopen).mpr ⟨j, ?_, hj⟩, hopen, rfl⟩
      rintro rfl
      obtain ⟨_, rfl⟩ := List.getElem?_eq_some_iff.mp hj
      exact hne hopen rfl
    split at hmem
    · rename_i hstmtClosed
      obtain ⟨other, hother, hopen, rfl⟩ := hmem
      exact hkept other hother hopen fun h => absurd (hstmtClosed.symm.trans h) nofun
    · obtain ⟨⟨other, hother, hopen, heq⟩, hne⟩ := hmem
      rw [← heq] at hne ⊢
      exact hkept other hother hopen fun _ => hne

/-- The operation queries a text. -/
def Operation.queriesText : Operation → Bool
  | query .. => true
  | stmtQueryWith _ params => !params.isEmpty
  | _ => false

/-- How many queries of texts have failed. -/
def failedQueries (calls : List (ℕ × Operation)) (outcomes : List (Outcome Error Reply)) : ℕ :=
  (calls.zip outcomes).countP fun x => x.1.2.queriesText && x.2.toOption.isNone

/-- The handles that are in use when those in `lost` are, too. -/
def accounted (lost : List Int32) (statements : List Statement) : Set Int32 :=
  openHandles statements ∪ {handle | handle ∈ lost}

theorem accounted_concat {lost : List Int32} {statements : List Statement} {stmt : Statement}
    (hopen : stmt.closed = false) :
    accounted lost (statements ++ [stmt]) =
      insert stmt.queryHandle (accounted lost statements) := by
  rw [accounted, openHandles_concat hopen, Set.insert_union]
  rfl

theorem accounted_cons {lost : List Int32} {statements : List Statement} {handle : Int32} :
    accounted (handle :: lost) statements = insert handle (accounted lost statements) := by
  ext other
  constructor
  · rintro (hopen | hlost)
    · exact .inr (.inl hopen)
    · exact (List.mem_cons.mp hlost).imp_right .inr
  · rintro (rfl | hopen | hlost)
    · exact .inr (List.mem_cons_self ..)
    · exact .inl hopen
    · exact .inr (List.mem_cons_of_mem _ hlost)

theorem accounted_set {lost : List Int32} {statements : List Statement}
    (hdistinct : Distinct statements) (hapart : ∀ handle ∈ lost, handle ∉ openHandles statements)
    {i : ℕ} {stmt stmt' : Statement} (hstmt : statements[i]? = some stmt)
    (hclosed : stmt'.closed = true) :
    accounted lost (statements.set i stmt') =
      if stmt.closed then accounted lost statements
      else accounted lost statements \ {stmt.queryHandle} := by
  rw [accounted, openHandles_set hdistinct hstmt hclosed]
  split
  · rfl
  · rename_i hopen
    have hmem : stmt.queryHandle ∈ openHandles statements :=
      ⟨stmt, List.mem_of_getElem? hstmt, Bool.eq_false_iff.mpr hopen, rfl⟩
    -- what is lost is not the handle that is closed
    ext handle
    constructor
    · rintro (⟨hin, hne⟩ | hlost)
      · exact ⟨.inl hin, hne⟩
      · exact ⟨.inr hlost, fun heq => hapart handle hlost (Set.mem_singleton_iff.mp heq ▸ hmem)⟩
    · rintro ⟨hin | hlost, hne⟩
      · exact .inl ⟨hin, hne⟩
      · exact .inr hlost

namespace DirectSession

variable {δ : Type}

/-- **The books of a session**: the handles in use are those of the statements that are open,
each of which has its own, and those that have been lost. -/
structure Books (D : Database δ) (lost : List Int32) (t : DirectSession δ) : Prop where
  distinct : Distinct t.statements
  apart : ∀ handle ∈ lost, handle ∉ openHandles t.statements
  inUse : D.InUse (accounted lost t.statements) t.client

section Steps

variable {α : Type} {D : Database δ} {lost : List Int32} {statements : List Statement}

/-- An operation of the client leaves the statements as they are. -/
theorem triple_onClient {p : Prog (Direct δ) Error α} {P E : Direct δ → Prop}
    {Q : α → Direct δ → Prop} (h : Triple P p Q E) :
    Triple (fun t => P t.client ∧ t.statements = statements) (onClient p)
      (fun a t => Q a t.client ∧ t.statements = statements)
      fun t => E t.client ∧ t.statements = statements := by
  rintro t x t' ⟨ht, hstatements⟩ hx
  obtain ⟨⟨y, client'⟩, hy, heq⟩ := Option.map_eq_some_iff.mp hx
  obtain ⟨rfl, rfl⟩ := Prod.mk.inj heq
  have hpost := h t.client y client' ht hy
  cases y <;> exact ⟨hpost, hstatements⟩

/-- The statement is there under the number. -/
theorem triple_withStatement {i : ℕ} {f : Statement → Prog (DirectSession δ) Error α}
    {P E : DirectSession δ → Prop} {Q : α → DirectSession δ → Prop}
    (h : ∀ stmt, statements[i]? = some stmt →
      Triple (fun t => P t ∧ t.statements = statements) (f stmt) Q E) :
    Triple (fun t => P t ∧ t.statements = statements) (withStatement i f) Q E := by
  rintro t x t' ⟨ht, rfl⟩ hx
  rw [withStatement] at hx
  split at hx
  · rename_i stmt hstmt
    exact h stmt hstmt t x t' ⟨ht, rfl⟩ hx
  · cases hx

/-- An operation of the client after which at most one handle more is in use has lost it. -/
theorem triple_reply (hdistinct : Distinct statements)
    (hapart : ∀ handle ∈ lost, handle ∉ openHandles statements) {c : Prop}
    {p : Prog (Direct δ) Error α}
    (h : Triple (D.InUse (accounted lost statements)) p
      (fun _ => D.InUse (accounted lost statements))
      (fun d => D.InUse (accounted lost statements) d ∨
        c ∧ D.OneMore (accounted lost statements) d))
    (g : α → Reply) :
    Triple (fun t => D.InUse (accounted lost statements) t.client ∧ t.statements = statements)
      (g <$> onClient p) (fun _ => Books D lost)
      (fun t => Books D lost t ∨ c ∧ ∃ handle, Books D (handle :: lost) t) := by
  refine triple_bind (triple_mono (triple_onClient h) (fun _ h => h) (fun _ _ h => h) ?_)
    fun _ => triple_pure ?_
  · rintro t ⟨hkept | ⟨hc, handle, hnot, hmore⟩, rfl⟩
    · exact .inl ⟨hdistinct, hapart, hkept⟩
    · refine .inr ⟨hc, handle, hdistinct, fun other hother => ?_, accounted_cons ▸ hmore⟩
      rcases List.mem_cons.mp hother with rfl | hother
      · exact fun hopen => hnot (.inl hopen)
      · exact hapart other hother
  · rintro t ⟨hkept, rfl⟩
    exact ⟨hdistinct, hapart, hkept⟩

/-- An operation of the client that leaves the handles as they are. -/
theorem triple_reply_keeps (hdistinct : Distinct statements)
    (hapart : ∀ handle ∈ lost, handle ∉ openHandles statements) {c : Prop}
    {p : Prog (Direct δ) Error α}
    (h : Triple (D.InUse (accounted lost statements)) p
      (fun _ => D.InUse (accounted lost statements)) (D.InUse (accounted lost statements)))
    (g : α → Reply) :
    Triple (fun t => D.InUse (accounted lost statements) t.client ∧ t.statements = statements)
      (g <$> onClient p) (fun _ => Books D lost)
      (fun t => Books D lost t ∨ c ∧ ∃ handle, Books D (handle :: lost) t) :=
  triple_reply hdistinct hapart
    (triple_mono h (fun _ h => h) (fun _ _ h => h) fun _ h => .inl h) g

/-- **What an operation makes of the books**: a query of a text may lose a handle, and then it
fails; nothing else does. -/
theorem triple_perform (htidy : D.Tidy) (hdistinct : Distinct statements)
    (hapart : ∀ handle ∈ lost, handle ∉ openHandles statements) (fuel : ℕ) (op : Operation) :
    Triple (fun t => D.InUse (accounted lost statements) t.client ∧ t.statements = statements)
      (perform D fuel op) (fun _ => Books D lost)
      (fun t => Books D lost t ∨ op.queriesText = true ∧ ∃ handle, Books D (handle :: lost) t) := by
  cases op with
  | execute sql params =>
    exact triple_reply_keeps hdistinct hapart (D.triple_execute htidy sql params) _
  | query sql params =>
    exact triple_reply hdistinct hapart (triple_mono (D.triple_query htidy fuel sql params)
      (fun _ h => h) (fun _ _ h => h) fun _ h => h.imp_right fun hmore => ⟨rfl, hmore⟩) _
  | prepare sql =>
    refine triple_bind (triple_mono (triple_onClient (D.triple_prepare htidy sql)) (fun _ h => h)
      (fun _ _ h => h) ?_) fun stmt => ?_
    · rintro t ⟨hkept, rfl⟩
      exact .inl ⟨hdistinct, hapart, hkept⟩
    refine triple_bind (Q := fun _ => Books D lost) (triple_modify ?_) fun _ =>
      triple_pure fun _ h => h
    -- the handle of the new statement is neither that of another one nor lost
    rintro t ⟨⟨hnot, hmore, hopen⟩, rfl⟩
    refine ⟨?_, fun handle hlost => ?_, ?_⟩
    · exact hdistinct.append_singleton fun other hother hotherOpen heq =>
        hnot (.inl ⟨other, hother, hotherOpen, heq⟩)
    · rw [openHandles_concat hopen]
      rintro (rfl | hin)
      · exact hnot (.inr hlost)
      · exact hapart handle hlost hin
    · rw [accounted_concat hopen]
      exact hmore
  | commit => exact triple_reply_keeps hdistinct hapart (D.triple_endTran htidy .commit) _
  | rollback => exact triple_reply_keeps hdistinct hapart (D.triple_endTran htidy .rollback) _
  | ping => exact triple_reply_keeps hdistinct hapart (D.triple_ping htidy) _
  | stmtExecute i params =>
    refine triple_withStatement fun stmt _ => ?_
    exact triple_reply_keeps hdistinct hapart (D.triple_stmtExecute htidy stmt params) _
  | stmtQueryWith i params =>
    refine triple_withStatement fun stmt _ => ?_
    refine triple_reply hdistinct hapart (triple_mono
      (D.triple_stmtQueryWith htidy fuel stmt params) (fun _ h => h) (fun _ _ h => h) ?_) _
    rintro d (hkept | ⟨hparams, hmore⟩)
    · exact .inl hkept
    · exact .inr ⟨by simpa [Operation.queriesText] using hparams, hmore⟩
  | stmtClose i =>
    refine triple_withStatement fun stmt hstmt => ?_
    have hmem : stmt.closed = false → stmt.queryHandle ∈ accounted lost statements :=
      fun hopen => .inl ⟨stmt, List.mem_of_getElem? hstmt, hopen, rfl⟩
    refine triple_bind (triple_mono (triple_onClient (D.triple_stmtClose htidy hmem
      (E := fun _ => False))) (fun _ h => h) (fun _ _ h => h) fun _ h => h.1.elim) fun stmt' => ?_
    refine triple_bind (Q := fun _ => Books D lost) (triple_modify ?_) fun _ =>
      triple_pure fun _ h => h
    rintro t ⟨⟨hclosed, hless⟩, rfl⟩
    refine ⟨hdistinct.set hstmt (.inr hclosed), fun handle hlost hopen => ?_, ?_⟩
    · rw [openHandles_set hdistinct hstmt hclosed] at hopen
      split at hopen
      · exact hapart handle hlost hopen
      · exact hapart handle hlost hopen.1
    · rw [accounted_set hdistinct hapart hstmt hclosed]
      exact hless
  | setAutoCommit autoCommit =>
    exact triple_reply_keeps hdistinct hapart (p := Prog.modify fun d => { d with autoCommit })
      (triple_modify fun _ hd => hd) _
  | close =>
    refine triple_bind (triple_modify (R := Books D lost) ?_) fun _ => triple_pure fun _ h => h
    rintro t ⟨hinUse, rfl⟩
    refine ⟨hdistinct, hapart, fun hopen => ?_⟩
    -- a closed client has no connection
    change (D.closeClient t.client).connected = true at hopen
    rw [Database.closeClient] at hopen
    split at hopen
    · cases hopen
    · exact absurd hopen ‹_›

end Steps

/-- One operation, which may fail. -/
theorem Books.step {D : Database δ} (htidy : D.Tidy) {call : ℕ × Operation}
    {x : Outcome Error Reply} {lost : List Int32} {t u : DirectSession δ} (h : Books D lost t)
    (hcall : DirectSession.perform D call.1 call.2 t = some (x, u)) :
    ∃ lost', lost'.length ≤ lost.length + failedQueries [call] [x] ∧ Books D lost' u := by
  have hpost := triple_perform htidy h.distinct h.apart call.1 call.2 t x u ⟨h.inUse, rfl⟩ hcall
  have hkept : Books D lost u →
      ∃ lost', lost'.length ≤ lost.length + failedQueries [call] [x] ∧ Books D lost' u :=
    fun hbooks => ⟨lost, Nat.le_add_right _ _, hbooks⟩
  have hfailed : x.toOption = none →
      (Books D lost u ∨ call.2.queriesText = true ∧ ∃ handle, Books D (handle :: lost) u) →
      ∃ lost', lost'.length ≤ lost.length + failedQueries [call] [x] ∧ Books D lost' u := by
    rintro hnone (hbooks | ⟨hqueries, handle, hmore⟩)
    · exact hkept hbooks
    · refine ⟨handle :: lost, ?_, hmore⟩
      simp [failedQueries, hqueries, hnone]
  cases x with
  | ok a => exact hkept hpost
  | err e => exact hfailed rfl hpost
  | panic => exact hfailed rfl hpost

/-- **The books of a whole session**: no more handles are lost than queries have failed. -/
theorem Books.each {D : Database δ} (htidy : D.Tidy) {calls : List (ℕ × Operation)}
    {outcomes : List (Outcome Error Reply)} {lost : List Int32} {t t' : DirectSession δ}
    (h : Books D lost t)
    (hrun : Prog.each (fun call => perform D call.1 call.2) calls t = some (outcomes, t')) :
    ∃ lost', lost'.length ≤ lost.length + failedQueries calls outcomes ∧ Books D lost' t' := by
  induction calls generalizing lost t outcomes with
  | nil =>
    obtain ⟨rfl, rfl⟩ := Prod.mk.inj (Option.some.inj hrun)
    exact ⟨lost, Nat.le_add_right _ _, h⟩
  | cons call calls ih =>
    obtain ⟨x, u, xs, hcall, hrest, rfl⟩ := each_cons hrun
    obtain ⟨lost₁, hlength₁, hbooks⟩ := h.step htidy hcall
    obtain ⟨lost₂, hlength₂, hbooks'⟩ := ih hbooks hrest
    have hcount : failedQueries (call :: calls) (x :: xs) =
        failedQueries [call] [x] + failedQueries calls xs := by
      rw [failedQueries, failedQueries, failedQueries, ← List.countP_append]
      rfl
    exact ⟨lost₂, by omega, hbooks'⟩

end DirectSession

/-! ### Over the wire -/

namespace Session

variable {δ τ : Type} {S : Server δ} {At Gone : δ → τ → Prop}

/-- **The handles of a session over the wire.** A session is begun with a server that has no
handle in use, and its client has not been closed. Then the handles that are in use at the server
are those of the statements that have been prepared and not been closed, and besides no more
handles than queries of a text have failed. -/
theorem handles_owned [Socket τ] (hbehind : Behind S At Gone) (htidy : S.toDatabase.Tidy) {db : δ}
    {stream : τ} (hat : At db stream) (hfresh : ∀ handle, ¬S.toDatabase.Holds db handle)
    (casInfo : CasInfo) (autoCommit : Bool) {calls : List (ℕ × Operation)}
    (hlegal : Legal (fun call t => call.2.Fits t.statements)
      (fun call => DirectSession.perform S.toDatabase call.1 call.2) calls
      (DirectSession.start db autoCommit))
    {outcomes : List (Outcome Error Reply)} {s : Session τ}
    (hrun : each (fun call => perform call.1 call.2) calls
      (start ⟨stream, casInfo⟩ autoCommit S.protoVersion) = some (outcomes, s))
    {conn : Connection τ} (hconn : s.client.conn = some conn) :
    ∃ (db' : δ) (lost : List Int32), At db' conn.stream ∧
      lost.length ≤ failedQueries calls outcomes ∧
      ∀ handle, S.toDatabase.Holds db' handle ↔
        (∃ stmt ∈ s.statements, stmt.closed = false ∧ stmt.queryHandle = handle) ∨
          handle ∈ lost := by
  have hrel := each_relates (fun call : ℕ × Operation => relates_perform hbehind call.1 call.2)
    (agrees_start hat casInfo autoCommit) hlegal
  rw [hrun] at hrel
  generalize hdirect : each _ calls (DirectSession.start db autoCommit) = y at hrel
  cases hrel with
  | @some _ y hrel =>
    obtain ⟨houtcomes, hagrees⟩ := hrel
    have hstart : (DirectSession.start db autoCommit).Books S.toDatabase [] := by
      refine ⟨List.Pairwise.nil, nofun, fun _ handle => iff_of_false (hfresh handle) ?_⟩
      rintro (⟨stmt, hstmt, -⟩ | hlost)
      · cases hstmt
      · cases hlost
    obtain ⟨lost, hlength, hbooks⟩ := hstart.each htidy hdirect
    have hattached := hagrees.client.conn
    rw [hconn] at hattached
    refine ⟨y.2.client.db, lost, hattached.2, ?_, fun handle => ?_⟩
    · change lost.length ≤ failedQueries calls (outcomes, s).1
      rw [houtcomes]
      exact hlength.trans (Nat.zero_add _).le
    · rw [hagrees.statements]
      exact hbooks.inUse hattached.1 handle

end Session

namespace OneHandle

theorem holds_iff {inUse : Bool} {handle : Int32} :
    server.toDatabase.Holds inUse handle ↔ inUse = true ∧ handle = 1 := by
  change (info inUse handle).isSome = true ↔ _
  rw [info]
  split
  · rename_i h
    simpa using h
  · rename_i h
    simpa using h

theorem tidy : server.toDatabase.Tidy where
  positive h := by
    obtain ⟨-, rfl⟩ := holds_iff.mp h
    decide
  opens {c inUse handle} h := by
    obtain ⟨hafter, rfl⟩ := holds_iff.mp h
    cases inUse with
    | true => exact .inl (holds_iff.mpr ⟨rfl, rfl⟩)
    | false =>
      cases c with
      | prepareAndExecute sql autoCommit => exact .inr ⟨inserted, rfl, rfl⟩
      | _ => cases hafter
  closes {inUse handle} h := by
    obtain ⟨rfl, rfl⟩ := holds_iff.mp h
    exact ⟨rfl, fun h => by cases (holds_iff.mp h).1⟩

/-- A text is queried, and the transaction is ended. -/
def queries : List (ℕ × Operation) := [(0, .query "INSERT INTO t VALUES (1)" []), (0, .commit)]

theorem legal_queries (t : DirectSession Bool) :
    Legal (fun (call : ℕ × Operation) t => call.2.Fits t.statements)
      (fun call => DirectSession.perform server.toDatabase call.1 call.2) queries t := by
  refine ⟨?_, fun _ _ _ => ⟨trivial, fun _ _ _ => trivial⟩⟩
  change (Utf8.encode _).length < _
  decide +kernel

end OneHandle

namespace Session

open OneHandle

theorem exists_queries : ∃ (s : Session (Visit site)) (conn : Connection (Visit site)),
    each (fun call => perform call.1 call.2) queries
      (start ⟨⟨.serving, false, []⟩, (0, 0, 0, 0)⟩ true 7) =
        some ([.ok (.rows ⟨noColumns, [], 1⟩), .ok .done], s) ∧
      s.client.conn = some conn ∧ s.statements = [] := by
  have hstart : Session.Agrees server (fun db (v : Visit site) => v = ⟨.serving, db, []⟩)
      (fun db v => v.db = db) (start ⟨⟨.serving, false, []⟩, (0, 0, 0, 0)⟩ true 7)
      (.start false true) := by
    refine agrees_start ?_ (0, 0, 0, 0) true
    rfl
  have hrel := each_relates
    (fun call : ℕ × Operation => relates_perform (Visit.behind site) call.1 call.2) hstart
    (legal_queries (.start false true))
  have hdirect : each (fun call => DirectSession.perform server.toDatabase call.1 call.2) queries
      (.start false true) =
        some ([.ok (.rows ⟨noColumns, [], 1⟩), .ok .done], ⟨⟨true, true, false⟩, []⟩) := rfl
  rw [hdirect] at hrel
  obtain ⟨⟨outcomes, s⟩, hrun, rfl, hagrees⟩ := exists_of_rel_some hrel
  have hattached := hagrees.client.conn
  rcases hconn : s.client.conn with - | conn
  · rw [hconn] at hattached
    cases hattached
  · exact ⟨s, conn, hrun, hconn, hagrees.statements⟩

/-- A text is queried, and its handle is given back. -/
theorem handles_owned_queries : ∃ (s : Session (Visit site)) (conn : Connection (Visit site)),
    each (fun call => perform call.1 call.2) queries
      (start ⟨⟨.serving, false, []⟩, (0, 0, 0, 0)⟩ true 7) =
        some ([.ok (.rows ⟨noColumns, [], 1⟩), .ok .done], s) ∧
      s.client.conn = some conn ∧ conn.stream.db = false := by
  have hfresh : ∀ handle, ¬server.toDatabase.Holds false handle :=
    fun handle h => by cases (holds_iff.mp h).1
  obtain ⟨s, conn, hrun, hconn, hstatements⟩ := exists_queries
  obtain ⟨db', lost, hat, hlost, hiff⟩ := handles_owned (Visit.behind site) tidy rfl hfresh
    (0, 0, 0, 0) true (legal_queries (.start false true)) hrun hconn
  -- no query has failed, and no statement has been prepared
  obtain rfl := List.length_eq_zero_iff.mp (Nat.le_zero.mp hlost)
  have hnone : db' = false := by
    refine Bool.eq_false_iff.mpr fun h => ?_
    rcases (hiff 1).mp (holds_iff.mpr ⟨h, rfl⟩) with ⟨stmt, hstmt, -⟩ | hmem
    · rw [hstatements] at hstmt
      cases hstmt
    · cases hmem
  exact ⟨s, conn, hrun, hconn, by rw [hat, hnone]⟩

end Session

end CubridDriver
