import CubridDriver.Pool.Steps

/-!
# The asynchronous pool

A guard of the asynchronous pool cannot wait for the lock when it is dropped. It
spawns a task that will, and until the task has run the client is held by the task.
A guard whose client has been closed spawns nothing: its slot stays counted, and so
does the slot of a call of `get` whose future is dropped behind its reservation.
These two kinds of step are what `CubridDriver.AsyncPool.leak` counts, and
`CubridDriver.AsyncPool.run_slack` says that nothing else ever separates the count
from what is held.

So the pool never exceeds its limit, in any interleaving:
`CubridDriver.AsyncPool.limit`.
-/

namespace CubridDriver

/-- An asynchronous pool in use. -/
structure AsyncPoolState (γ : Type) extends PoolState γ where
  /-- The clients held by return tasks that have not run yet. -/
  tasks : List γ

/-- The steps of the asynchronous pool. -/
inductive AsyncAction (γ : Type)
  /-- A step that both pools have. -/
  | shared (a : PoolAction γ)
  /-- A guard is dropped. -/
  | dropGuard (i : ℕ)
  /-- A return task gets the lock. -/
  | returnTask (t : ℕ)
  /-- The future of a `get` is dropped at one of its await points. -/
  | cancel (g : ℕ)

namespace AsyncPool

variable {γ : Type} (api : PoolClient γ)

/-- Dropping a guard: a dead client is just dropped, any other is given to a task that
will return it. The runtime is there to spawn the task. -/
def dropGuard (s : AsyncPoolState γ) (i : ℕ) : Stepped (AsyncPoolState γ) :=
  match s.guards[i]? with
  | some client =>
      if api.isClosed client then .ok { s with guards := s.guards.eraseIdx i }
      else .ok { s with guards := s.guards.eraseIdx i, tasks := s.tasks ++ [client] }
  | none => .err .notEnabled

/-- The section of a return task. -/
def returnTask (s : AsyncPoolState γ) (t : ℕ) : Stepped (AsyncPoolState γ) :=
  match s.tasks[t]? with
  | some client => do
      let inner ← s.inner.takeBack (!s.inner.closed) client
      return { s with inner, tasks := s.tasks.eraseIdx t }
  | none => .err .notEnabled

/-- Dropping the future of a `get` that has no outcome yet. -/
def cancel (s : AsyncPoolState γ) (g : ℕ) : Stepped (AsyncPoolState γ) :=
  match s.gets[g]? with
  | some p =>
      if p.inFlight then .ok { s with gets := s.gets.set g .cancelled } else .err .notEnabled
  | none => .err .notEnabled

/-- The step of the asynchronous pool. -/
def step (s : AsyncPoolState γ) : AsyncAction γ → Stepped (AsyncPoolState γ)
  | .shared a => do
      let p ← s.toPoolState.step api a
      return { s with toPoolState := p }
  | .dropGuard i => dropGuard api s i
  | .returnTask t => returnTask s t
  | .cancel g => cancel s g

/-- The asynchronous pool built by `new` with the given configuration, and its
callers. -/
def lts (config : PoolConfig) : Lts (AsyncPoolState γ) (AsyncAction γ) Refused :=
  ⟨fun s => PoolState.Initial api config s.toPoolState ∧ s.tasks = [], step api⟩

/-! ### What a step can do -/

section Inversion

variable {api} {s s' : AsyncPoolState γ}

theorem step_shared {a : PoolAction γ} (h : step api s (.shared a) = .ok s') :
    ∃ p, s.toPoolState.step api a = .ok p ∧ s' = { s with toPoolState := p } := by
  obtain ⟨p, hp, hret⟩ := Outcome.bind_eq_ok.mp h
  exact ⟨p, hp, (Outcome.ok.inj hret).symm⟩

theorem step_dropGuard {i : ℕ} (h : step api s (.dropGuard i) = .ok s') :
    ∃ client, s.guards[i]? = some client ∧
      ((api.isClosed client = true ∧ s' = { s with guards := s.guards.eraseIdx i }) ∨
        (api.isClosed client = false ∧
          s' = { s with guards := s.guards.eraseIdx i, tasks := s.tasks ++ [client] })) := by
  simp only [step, dropGuard] at h
  split at h
  · rename_i client hi
    refine ⟨client, hi, ?_⟩
    split at h
    · exact Or.inl ⟨‹_›, (Outcome.ok.inj h).symm⟩
    · exact Or.inr ⟨Bool.eq_false_iff.mpr ‹_›, (Outcome.ok.inj h).symm⟩
  · cases h

theorem step_returnTask {t : ℕ} (h : step api s (.returnTask t) = .ok s') :
    ∃ client n, s.tasks[t]? = some client ∧ s.inner.activeCount = n + 1 ∧
      s' = { s with
        inner := { s.inner with
          activeCount := n
          idle := if !s.inner.closed then s.inner.idle ++ [client] else s.inner.idle }
        tasks := s.tasks.eraseIdx t } := by
  simp only [step, returnTask] at h
  split at h
  · obtain ⟨inner, hinner, hret⟩ := Outcome.bind_eq_ok.mp h
    obtain ⟨n, hn, rfl⟩ := PoolInner.takeBack_eq_ok hinner
    exact ⟨_, n, ‹_›, hn, (Outcome.ok.inj hret).symm⟩
  · cases h

theorem step_cancel {g : ℕ} (h : step api s (.cancel g) = .ok s') :
    ∃ p, s.gets[g]? = some p ∧ p.inFlight = true ∧
      s' = { s with gets := s.gets.set g .cancelled } := by
  simp only [step, cancel] at h
  split at h
  · split at h
    · exact ⟨_, ‹_›, ‹_›, (Outcome.ok.inj h).symm⟩
    · cases h
  · cases h

end Inversion

/-! ### Slots that leak -/

/-- What is held, return tasks included. -/
def held (s : AsyncPoolState γ) : ℕ := s.toPoolState.held + s.tasks.length

/-- By how much the count exceeds what is held. -/
def slack (s : AsyncPoolState γ) : ℤ := s.inner.activeCount - held s

/-- The slots a step leaks: that of a guard whose client is closed when it is dropped,
and that of a call cancelled behind its reservation. -/
def leak (s : AsyncPoolState γ) : AsyncAction γ → ℕ
  | .dropGuard i =>
      match s.guards[i]? with
      | some client => (api.isClosed client).toNat
      | none => 0
  | .cancel g =>
      match s.gets[g]? with
      | some p => p.reserved.toNat
      | none => 0
  | _ => 0

section Account

variable {api} {config : PoolConfig} {s s' t : AsyncPoolState γ} {a : AsyncAction γ}

/-- **A step separates the count from what is held by what it leaks.** -/
theorem step_slack (h : step api s a = .ok s') : slack s' = slack s + leak api s a := by
  cases a with
  | shared a =>
    obtain ⟨p, hp, rfl⟩ := step_shared h
    have haccount := PoolState.step_account hp
    simp only [slack, held, leak]
    omega
  | dropGuard i =>
    rcases step_dropGuard h with ⟨client, hi, ⟨hclosed, rfl⟩ | ⟨hopen, rfl⟩⟩
    -- a dead client is dropped, and its slot stays counted
    · have hlen := List.length_eraseIdx_add_one (List.getElem?_eq_some_iff.mp hi).1
      simp only [slack, held, PoolState.held, PoolState.reservedGets, leak, hi, hclosed,
        Bool.toNat_true]
      omega
    -- the slot moves from the guard to the task
    · have hlen := List.length_eraseIdx_add_one (List.getElem?_eq_some_iff.mp hi).1
      simp only [slack, held, PoolState.held, PoolState.reservedGets, leak, hi, hopen,
        Bool.toNat_false, List.length_append, List.length_singleton]
      omega
  | returnTask t =>
    obtain ⟨client, n, ht, hn, rfl⟩ := step_returnTask h
    have hlen := List.length_eraseIdx_add_one (List.getElem?_eq_some_iff.mp ht).1
    simp only [slack, held, PoolState.held, PoolState.reservedGets, leak]
    omega
  | cancel g =>
    obtain ⟨p, hg, -, rfl⟩ := step_cancel h
    have hcount := PoolState.countP_reserved_set .cancelled hg
    rw [show GetPhase.cancelled.reserved = false from rfl, Bool.toNat_false] at hcount
    simp only [slack, held, PoolState.held, PoolState.reservedGets, leak, hg]
    omega

/-- **Nothing but leaks separates the count from what is held**, along any run. -/
theorem run_slack {as : List (AsyncAction γ)} (h : (lts api config).run s as = .ok t) :
    slack t = slack s + (lts api config).tally (leak api) s as :=
  Lts.run_tally (fun _ _ _ => step_slack) h

/-- A new pool has no slack. -/
theorem slack_of_init (h : (lts api config).init s) : slack s = 0 := by
  obtain ⟨hinit, htasks⟩ := h
  obtain ⟨-, -, hactive, hheld, -⟩ := hinit.spec
  simp [slack, held, hactive, hheld, htasks]

end Account

/-! ### The invariant -/

/-- What holds of the asynchronous pool throughout. -/
structure Inv (config : PoolConfig) (s : AsyncPoolState γ) : Prop where
  /-- The configuration stays. -/
  config_eq : s.inner.config = config
  /-- What is held is counted. -/
  held_le : held s ≤ s.inner.activeCount
  /-- The limit is kept. -/
  withinLimit : s.WithinLimit

section Inv

variable {api} {config : PoolConfig} {s s' : AsyncPoolState γ} {a : AsyncAction γ}

theorem step_config (h : step api s a = .ok s') : s'.inner.config = s.inner.config := by
  cases a with
  | shared a =>
    obtain ⟨p, hp, rfl⟩ := step_shared h
    exact PoolState.step_config hp
  | dropGuard i =>
    rcases step_dropGuard h with ⟨client, -, ⟨-, rfl⟩ | ⟨-, rfl⟩⟩ <;> rfl
  | returnTask t =>
    obtain ⟨client, n, -, -, rfl⟩ := step_returnTask h
    rfl
  | cancel g =>
    obtain ⟨p, -, -, rfl⟩ := step_cancel h
    rfl

/-- A client that a task returns takes the place it had among the checked out ones. -/
theorem step_withinLimit (hs : s.WithinLimit) (h : step api s a = .ok s') : s'.WithinLimit := by
  cases a with
  | shared a =>
    obtain ⟨p, hp, rfl⟩ := step_shared h
    exact PoolState.step_withinLimit hs hp
  | dropGuard i =>
    rcases step_dropGuard h with ⟨client, -, ⟨-, rfl⟩ | ⟨-, rfl⟩⟩ <;> exact hs
  | returnTask t =>
    obtain ⟨client, n, -, hn, rfl⟩ := step_returnTask h
    rw [PoolState.WithinLimit] at hs ⊢
    simp only
    split
    · rw [List.length_append, List.length_singleton]
      omega
    · omega
  | cancel g =>
    obtain ⟨p, -, -, rfl⟩ := step_cancel h
    exact hs

/-- **A step keeps the invariant.** What is held stays counted, since slack never
shrinks. -/
theorem step_inv (hs : Inv config s) (h : step api s a = .ok s') : Inv config s' := by
  refine ⟨(step_config h).trans hs.config_eq, ?_, step_withinLimit hs.withinLimit h⟩
  have hslack := step_slack h
  have hheld := hs.held_le
  rw [slack, slack] at hslack
  omega

theorem reachable_inv (h : (lts api config).Reachable s) : Inv config s := by
  refine h.invariant (fun s hs => ?_) fun s a s' hs h => step_inv hs h
  obtain ⟨hconfig, -, hactive, hheld, hlimit⟩ := hs.1.spec
  exact ⟨hconfig, by rw [held, hheld, hs.2, hactive]; simp, hlimit⟩

/-- **No step underflows.** -/
theorem step_ne_panic (hs : Inv config s) : step api s a ≠ .panic := by
  have hle := hs.held_le
  rw [held] at hle
  intro h
  cases a with
  | shared a =>
    rcases Outcome.bind_eq_panic.mp h with hpanic | ⟨p, -, hret⟩
    · exact PoolState.step_ne_panic (by omega) hpanic
    · cases hret
  | dropGuard i =>
    simp only [step, dropGuard] at h
    split at h
    · split at h <;> cases h
    · cases h
  | returnTask t =>
    simp only [step, returnTask] at h
    split at h
    · rename_i client ht
      have hpos : 0 < s.tasks.length := Nat.zero_lt_of_lt (List.getElem?_eq_some_iff.mp ht).1
      rcases Outcome.bind_eq_panic.mp h with hpanic | ⟨inner, -, hret⟩
      · rw [PoolInner.takeBack_eq_panic] at hpanic
        omega
      · cases hret
    · cases h
  | cancel g =>
    simp only [step, cancel] at h
    split at h
    · split at h <;> cases h
    · cases h

/-- **The asynchronous pool never exceeds its limit.** In every reachable state the
connections that exist – idle, in guards, in calls past their reservation, in return
tasks – are covered by the idle ones and the count, which together stay within
`max_size`; and no step underflows. -/
theorem limit (h : (lts api config).Reachable s) :
    s.inner.idle.length + s.guards.length + s.reservedGets + s.tasks.length ≤
        s.inner.idle.length + s.inner.activeCount ∧
      s.inner.idle.length + s.inner.activeCount ≤ config.maxSize ∧
      ∀ a, step api s a ≠ .panic := by
  have hs := reachable_inv h
  have hheld := hs.held_le
  have hlimit := hs.withinLimit
  rw [PoolState.WithinLimit, hs.config_eq] at hlimit
  refine ⟨?_, hlimit, fun a => step_ne_panic hs⟩
  rw [held, PoolState.held] at hheld
  omega

end Inv

/-- A pool whose one connection is held by a return task. -/
def returningPool : AsyncPoolState (Client Unit) where
  inner := ⟨⟨"cubrid://localhost/demodb", 1, 0⟩, [], 1, false⟩
  gets := [.returned (.ok ())]
  guards := []
  tasks := [.connected ()]

/-- The task's subtraction does not underflow. -/
theorem limit_returningPool : returnTask returningPool 0 ≠ .panic := by
  have hreach : (lts (asyncClient Unit) returningPool.inner.config).Reachable returningPool := by
    refine ⟨⟨⟨{ returningPool.inner with activeCount := 0 }, [], []⟩, []⟩,
      [.shared .call, .shared (.start 0), .shared (.connected 0 (.connected ())), .dropGuard 0],
      ⟨⟨⟨fun _ => .ok (.connected ()), rfl⟩, rfl, rfl⟩, rfl⟩, rfl⟩
  exact (limit hreach).2.2 (.returnTask 0)

end AsyncPool

end CubridDriver
