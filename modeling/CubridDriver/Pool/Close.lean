import CubridDriver.Pool.Sync
import CubridDriver.Pool.Async

/-!
# Closing a pool

`close` sets a flag and empties the idle queue. No step of either pool undoes the one or
the other, whoever was in the middle of a `get` and whatever was checked out: from then
on a call of `get` that takes the lock is refused, and a client that comes back is
dropped. `CubridDriver.close_final` says so of every run.
-/

namespace CubridDriver

namespace PoolState

variable {γ : Type} {api : PoolClient γ} {s s' : PoolState γ}

/-- The pool is closed, and no connection is idle. -/
def Closed (s : PoolState γ) : Prop := s.inner.closed = true ∧ s.inner.idle = []

/-- A closed pool refuses. -/
theorem start_closed (hs : s.Closed) (g : ℕ) :
    s.start g = { s with gets := s.gets.set g (.returned (.error .poolClosed)) } := by
  rcases s.start_cases g with ⟨-, h⟩ | ⟨_, _, hopen, -⟩ | ⟨hopen, -⟩ | ⟨hopen, -⟩
  · exact h
  -- the other outcomes are those of an open pool
  all_goals exact absurd (hs.1.symm.trans hopen) nofun

/-- **No shared step reopens a pool, or queues a connection in a closed one.** -/
theorem step_closed {a : PoolAction γ} (hs : s.Closed) (h : s.step api a = .ok s') :
    s'.Closed := by
  cases a with
  | start g =>
    obtain ⟨-, rfl⟩ := step_start h
    rw [start_closed hs g]
    exact hs
  | connected g client =>
    rw [(step_connected h).2]
    exact hs
  | connectError g e =>
    rw [(step_connectError h).2]
    exact hs
  | fail g =>
    obtain ⟨e, n, -, -, rfl⟩ := step_fail h
    exact hs
  | borrow i op =>
    obtain ⟨client, -, rfl⟩ := step_borrow h
    exact hs
  | call =>
    obtain rfl := Outcome.ok.inj h
    exact hs
  | close =>
    obtain rfl := Outcome.ok.inj h
    exact ⟨rfl, rfl⟩

/-- What a call of `get` finds that takes the lock of a closed pool. -/
theorem step_start_closed {g : ℕ} (hs : s.Closed) (h : s.step api (.start g) = .ok s') :
    s'.gets[g]? = some (.returned (.error .poolClosed)) ∧ s'.inner = s.inner ∧
      s'.guards = s.guards := by
  obtain ⟨hwaiting, rfl⟩ := step_start h
  rw [start_closed hs g]
  exact ⟨List.getElem?_set_self (List.getElem?_eq_some_iff.mp hwaiting).1, rfl, rfl⟩

end PoolState

/-! ### The blocking pool -/

namespace SyncPool

variable {γ : Type} {api : PoolClient γ} {config : PoolConfig} {s s' t : PoolState γ}

/-- A guard of a closed pool drops its client. -/
theorem dropGuard_closed {i : ℕ} (hs : s.Closed) (h : dropGuard api s i = .ok s') :
    s'.Closed ∧ s'.guards = s.guards.eraseIdx i := by
  obtain ⟨client, n, -, -, rfl⟩ := dropGuard_eq_ok h
  refine ⟨⟨hs.1, ?_⟩, rfl⟩
  have hkeep : (!s.inner.closed && !api.isClosed client) = false := by rw [hs.1]; rfl
  change (if _ then _ else _) = _
  rw [hkeep, if_neg nofun]
  exact hs.2

theorem step_closed {a : SyncAction γ} (hs : s.Closed) (h : step api s a = .ok s') :
    s'.Closed := by
  cases a with
  | shared a => exact PoolState.step_closed hs h
  | dropGuard i => exact (dropGuard_closed hs h).1

/-- **Closed once, closed ever after.** -/
theorem run_closed {as : List (SyncAction γ)} (h : (lts api config).run s (.shared .close :: as) =
    .ok t) : t.Closed := by
  obtain ⟨s₁, hclose, hrun⟩ := Lts.run_cons_eq_ok.mp h
  obtain rfl := Outcome.ok.inj hclose
  exact Lts.run_invariant (fun _ _ _ => step_closed) ⟨rfl, rfl⟩ hrun

end SyncPool

/-! ### The asynchronous pool -/

namespace AsyncPool

variable {γ : Type} {api : PoolClient γ} {config : PoolConfig} {s s' t : AsyncPoolState γ}

/-- A return task of a closed pool drops its client. -/
theorem returnTask_closed {i : ℕ} (hs : s.Closed) (h : step api s (.returnTask i) = .ok s') :
    s'.Closed ∧ s'.tasks = s.tasks.eraseIdx i := by
  obtain ⟨client, n, -, -, rfl⟩ := step_returnTask h
  refine ⟨⟨hs.1, ?_⟩, rfl⟩
  change (if (!s.inner.closed) = true then _ else _) = _
  rw [hs.1, if_neg nofun]
  exact hs.2

/-- A guard has no part in the data behind the lock when it is dropped. -/
theorem dropGuard_inner {i : ℕ} (h : step api s (.dropGuard i) = .ok s') :
    s'.inner = s.inner ∧ s'.guards = s.guards.eraseIdx i := by
  rcases step_dropGuard h with ⟨client, -, ⟨-, rfl⟩ | ⟨-, rfl⟩⟩ <;> exact ⟨rfl, rfl⟩

theorem step_closed {a : AsyncAction γ} (hs : s.Closed) (h : step api s a = .ok s') :
    s'.Closed := by
  cases a with
  | shared a =>
    obtain ⟨p, hp, rfl⟩ := step_shared h
    exact PoolState.step_closed hs hp
  | dropGuard i =>
    rw [PoolState.Closed, (dropGuard_inner h).1]
    exact hs
  | returnTask i => exact (returnTask_closed hs h).1
  | cancel g =>
    obtain ⟨p, -, -, rfl⟩ := step_cancel h
    exact hs

/-- **Closed once, closed ever after.** -/
theorem run_closed {as : List (AsyncAction γ)}
    (h : (lts api config).run s (.shared .close :: as) = .ok t) : t.Closed := by
  obtain ⟨s₁, hclose, hrun⟩ := Lts.run_cons_eq_ok.mp h
  obtain ⟨p, hp, rfl⟩ := step_shared hclose
  obtain rfl := Outcome.ok.inj hp
  have hstep : ∀ s a s', s.Closed → (lts api config).step s a = .ok s' → s'.Closed :=
    fun _ _ _ => step_closed
  exact @Lts.run_invariant _ _ _ _ (fun s => s.Closed) hstep _ _ _ ⟨rfl, rfl⟩ hrun

end AsyncPool

/-! ### Both -/

section Final

variable {γ : Type} {api : PoolClient γ} {config : PoolConfig}

/-- **Closing is final.** In every run of either pool that goes on, in any interleaving,
from a call of `close` in any state: the pool is closed and holds no idle connection; a
call of `get` that takes the lock now returns `PoolClosed` and takes nothing; and what a
guard or a return task gives back is dropped. -/
theorem close_final :
    (∀ s (as : List (SyncAction γ)) t,
      (SyncPool.lts api config).run s (.shared .close :: as) = .ok t →
      (t.inner.closed = true ∧ t.inner.idle = []) ∧
      (∀ g t', SyncPool.step api t (.shared (.start g)) = .ok t' →
        t'.gets[g]? = some (.returned (.error .poolClosed)) ∧ t'.inner = t.inner ∧
          t'.guards = t.guards) ∧
      ∀ i t', SyncPool.step api t (.dropGuard i) = .ok t' →
        t'.inner.idle = [] ∧ t'.guards = t.guards.eraseIdx i) ∧
    ∀ s (as : List (AsyncAction γ)) t,
      (AsyncPool.lts api config).run s (.shared .close :: as) = .ok t →
      (t.inner.closed = true ∧ t.inner.idle = []) ∧
      (∀ g t', AsyncPool.step api t (.shared (.start g)) = .ok t' →
        t'.gets[g]? = some (.returned (.error .poolClosed)) ∧ t'.inner = t.inner ∧
          t'.guards = t.guards ∧ t'.tasks = t.tasks) ∧
      (∀ i t', AsyncPool.step api t (.dropGuard i) = .ok t' →
        t'.inner.idle = [] ∧ t'.guards = t.guards.eraseIdx i) ∧
      ∀ i t', AsyncPool.step api t (.returnTask i) = .ok t' →
        t'.inner.idle = [] ∧ t'.tasks = t.tasks.eraseIdx i := by
  refine ⟨fun s as t hrun => ?_, fun s as t hrun => ?_⟩
  · have hclosed := SyncPool.run_closed hrun
    refine ⟨hclosed, fun g t' h => ?_, fun i t' h => ?_⟩
    · exact @PoolState.step_start_closed _ api _ _ _ hclosed h
    · obtain ⟨hclosed', hguards⟩ := SyncPool.dropGuard_closed hclosed h
      exact ⟨hclosed'.2, hguards⟩
  · have hclosed := AsyncPool.run_closed hrun
    refine ⟨hclosed, fun g t' h => ?_, fun i t' h => ?_, fun i t' h => ?_⟩
    · obtain ⟨p, hp, rfl⟩ := AsyncPool.step_shared h
      obtain ⟨hget, hinner, hguards⟩ := PoolState.step_start_closed hclosed hp
      exact ⟨hget, hinner, hguards, rfl⟩
    · obtain ⟨hinner, hguards⟩ := AsyncPool.dropGuard_inner h
      exact ⟨hinner ▸ hclosed.2, hguards⟩
    · obtain ⟨hclosed', htasks⟩ := AsyncPool.returnTask_closed hclosed h
      exact ⟨hclosed'.2, htasks⟩

/-- A pool with a `get` that waits for its connect and another one that waits for the
lock. -/
def busyPool : PoolState (Client Unit) :=
  ⟨⟨⟨"cubrid://localhost/demodb", 2, 0⟩, [], 1, false⟩, [.connecting, .waiting], []⟩

/-- A pool like it, with a client that waits for the lock to be returned. -/
def busyAsyncPool : AsyncPoolState (Client Unit) :=
  ⟨{ busyPool with inner := { busyPool.inner with activeCount := 2 } }, [.connected ()]⟩

/-- It is closed while the connect is under way: the client that has been connected
leaves the idle queue empty when it comes back, and the second call is refused. In the other
pool it is the client of the return task that comes back. -/
theorem close_final_busyPool :
    (∃ t, SyncPool.step (syncClient Unit)
        { busyPool with
          inner := busyPool.inner.close
          gets := [.returned (.ok ()), .waiting]
          guards := [.connected ()] } (.dropGuard 0) = .ok t ∧ t.inner.idle = []) ∧
    (∃ t, SyncPool.step (syncClient Unit) { busyPool with inner := busyPool.inner.close }
        (.shared (.start 1)) = .ok t ∧ t.gets[1]? = some (.returned (.error .poolClosed))) ∧
    (∃ t, AsyncPool.step (asyncClient Unit)
        { busyAsyncPool with inner := busyAsyncPool.inner.close } (.returnTask 0) = .ok t ∧
          t.inner.idle = [] ∧ t.tasks = []) ∧
    ∃ t, AsyncPool.step (asyncClient Unit)
        { busyAsyncPool with inner := busyAsyncPool.inner.close } (.shared (.start 1)) = .ok t ∧
          t.gets[1]? = some (.returned (.error .poolClosed)) := by
  have hsync := (@close_final _ (syncClient Unit) busyPool.inner.config).1
  have hasync := (@close_final _ (asyncClient Unit) busyPool.inner.config).2
  refine ⟨⟨_, rfl, ?_⟩, ⟨_, rfl, ?_⟩, ⟨_, rfl, ?_⟩, ⟨_, rfl, ?_⟩⟩
  · exact ((hsync busyPool [.shared (.connected 0 (.connected ()))] _ rfl).2.2 0 _ rfl).1
  · exact ((hsync busyPool [] _ rfl).2.1 1 _ rfl).1
  · exact (hasync busyAsyncPool [] _ rfl).2.2.2 0 _ rfl
  · exact ((hasync busyAsyncPool [] _ rfl).2.1 1 _ rfl).1

end Final

end CubridDriver
