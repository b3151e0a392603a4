import CubridDriver.Pool.Steps

/-!
# The blocking pool

A guard of the blocking pool returns its client under the lock, at once, when it is
dropped. So every slot that is counted is held by a guard or by a call of `get` that
waits for the outcome of its connect, in every reachable state:
`CubridDriver.SyncPool.accounting`.
-/

namespace CubridDriver

/-- The steps of the blocking pool. -/
inductive SyncAction (γ : Type)
  /-- A step that both pools have. -/
  | shared (a : PoolAction γ)
  /-- A guard is dropped. -/
  | dropGuard (i : ℕ)

namespace SyncPool

variable {γ : Type} (api : PoolClient γ)

/-- The section of `drop`: the client goes back to the idle ones, unless it is dead or
the pool is closed. -/
def dropGuard (s : PoolState γ) (i : ℕ) : Stepped (PoolState γ) :=
  match s.guards[i]? with
  | some client => do
      let inner ← s.inner.takeBack (!s.inner.closed && !api.isClosed client) client
      return { s with inner, guards := s.guards.eraseIdx i }
  | none => .err .notEnabled

/-- The step of the blocking pool. -/
def step (s : PoolState γ) : SyncAction γ → Stepped (PoolState γ)
  | .shared a => s.step api a
  | .dropGuard i => dropGuard api s i

/-- The blocking pool built by `new` with the given configuration, and its callers. -/
def lts (config : PoolConfig) : Lts (PoolState γ) (SyncAction γ) Refused :=
  ⟨PoolState.Initial api config, step api⟩

variable {api} {config : PoolConfig} {s s' : PoolState γ}

theorem dropGuard_eq_ok {i : ℕ} (h : dropGuard api s i = .ok s') :
    ∃ client n, s.guards[i]? = some client ∧ s.inner.activeCount = n + 1 ∧
      s' = { s with
        inner := { s.inner with
          activeCount := n
          idle := if !s.inner.closed && !api.isClosed client then s.inner.idle ++ [client]
            else s.inner.idle }
        guards := s.guards.eraseIdx i } := by
  unfold dropGuard at h
  split at h
  · obtain ⟨inner, hinner, hret⟩ := Outcome.bind_eq_ok.mp h
    obtain ⟨n, hn, rfl⟩ := PoolInner.takeBack_eq_ok hinner
    exact ⟨_, n, ‹_›, hn, (Outcome.ok.inj hret).symm⟩
  · cases h

/-! ### The invariant -/

/-- What holds of the blocking pool throughout. -/
structure Inv (config : PoolConfig) (s : PoolState γ) : Prop where
  /-- The configuration stays. -/
  config_eq : s.inner.config = config
  /-- What is counted is held. -/
  count_eq : s.inner.activeCount = s.held
  /-- The limit is kept. -/
  withinLimit : s.WithinLimit

/-- **A step keeps the invariant.** -/
theorem step_inv {a : SyncAction γ} (hs : Inv config s) (h : step api s a = .ok s') :
    Inv config s' := by
  cases a with
  | shared a =>
    -- the account of the shared steps keeps the equation
    have haccount := PoolState.step_account h
    refine ⟨(PoolState.step_config h).trans hs.config_eq, ?_,
      PoolState.step_withinLimit hs.withinLimit h⟩
    have := hs.count_eq
    omega
  | dropGuard i =>
    obtain ⟨client, n, hi, hn, rfl⟩ := dropGuard_eq_ok h
    have hlen := List.length_eraseIdx_add_one (List.getElem?_eq_some_iff.mp hi).1
    have hcount := hs.count_eq
    have hlimit := hs.withinLimit
    refine ⟨hs.config_eq, ?_, ?_⟩
    · simp only [PoolState.held, PoolState.reservedGets] at hcount ⊢
      omega
    · simp only [PoolState.WithinLimit] at hlimit ⊢
      split
      · rw [List.length_append, List.length_singleton]
        omega
      · omega

theorem reachable_inv (h : (lts api config).Reachable s) : Inv config s := by
  refine h.invariant (fun s hs => ?_) fun s a s' hs h => step_inv hs h
  obtain ⟨hconfig, -, hactive, hheld, hlimit⟩ := PoolState.Initial.spec hs
  exact ⟨hconfig, by rw [hactive, hheld], hlimit⟩

/-- **No step underflows.** -/
theorem step_ne_panic {a : SyncAction γ} (hs : Inv config s) : step api s a ≠ .panic := by
  cases a with
  | shared a => exact PoolState.step_ne_panic (Nat.le_of_eq hs.count_eq.symm)
  | dropGuard i =>
    intro h
    simp only [step, dropGuard] at h
    split at h
    · rename_i client hi
      have hpos : 0 < s.guards.length := Nat.zero_lt_of_lt (List.getElem?_eq_some_iff.mp hi).1
      rcases Outcome.bind_eq_panic.mp h with hpanic | ⟨inner, -, hret⟩
      · have hcount := hs.count_eq
        rw [PoolInner.takeBack_eq_panic] at hpanic
        rw [PoolState.held] at hcount
        omega
      · cases hret
    · cases h

/-- **A call that finds the pool exhausted finds it full**: every slot is held by a
guard or by a call in flight. -/
theorem start_exhausted {g max : ℕ} (hs : Inv config s)
    (h : step api s (.shared (.start g)) = .ok s')
    (hg : s'.gets[g]? = some (.returned (.error (.poolExhausted max)))) :
    max = config.maxSize ∧ s.held = config.maxSize := by
  have hstart : s.step api (.start g) = .ok s' := h
  obtain ⟨hwaiting, rfl⟩ := PoolState.step_start hstart
  have hlt := (List.getElem?_eq_some_iff.mp hwaiting).1
  rcases s.start_cases g with ⟨-, h⟩ | ⟨client, idle, -, -, h⟩ | ⟨-, -, -, h⟩ |
      ⟨-, hidle, hfull, h⟩
  all_goals simp only [h, List.getElem?_set_self hlt, Option.some.injEq, reduceCtorEq,
    GetPhase.returned.injEq, Except.error.injEq, PoolError.poolExhausted.injEq] at hg
  have hlimit := hs.withinLimit
  rw [PoolState.WithinLimit, hidle, hs.config_eq] at hlimit
  rw [hs.config_eq] at hg hfull
  have := hs.count_eq
  exact ⟨hg.symm, by simp at hlimit; omega⟩

/-- **The accounting of the blocking pool.** In every reachable state the count is the
number of guards and of calls of `get` between reservation and outcome, the pool is
within its limit, no step underflows, and a call of `get` finds the pool exhausted only
when guards and calls in flight hold exactly `max_size` slots. -/
theorem accounting (h : (lts api config).Reachable s) :
    s.inner.activeCount = s.guards.length + s.reservedGets ∧
    s.inner.idle.length + s.inner.activeCount ≤ config.maxSize ∧
    (∀ a, step api s a ≠ .panic) ∧
    ∀ g max s', step api s (.shared (.start g)) = .ok s' →
      s'.gets[g]? = some (.returned (.error (.poolExhausted max))) →
      max = config.maxSize ∧ s.guards.length + s.reservedGets = config.maxSize := by
  have hs := reachable_inv h
  have hlimit := hs.withinLimit
  rw [PoolState.WithinLimit, hs.config_eq] at hlimit
  exact ⟨hs.count_eq, hlimit, fun a => step_ne_panic hs,
    fun g max s' hstep hg => start_exhausted hs hstep hg⟩

/-- A pool of one connection, which is checked out, and a second call of `get`. -/
def onePool : PoolState (Client Unit) :=
  ⟨⟨⟨"cubrid://localhost/demodb", 1, 0⟩, [], 1, false⟩, [.returned (.ok ()), .waiting],
    [.connected ()]⟩

/-- That second call finds the one slot held. -/
theorem accounting_onePool : onePool.guards.length + onePool.reservedGets = 1 := by
  have hreach : (lts (syncClient Unit) onePool.inner.config).Reachable onePool := by
    refine ⟨⟨{ onePool.inner with activeCount := 0 }, [], []⟩,
      [.shared .call, .shared (.start 0), .shared (.connected 0 (.connected ())), .shared .call],
      ⟨⟨fun _ => .ok (.connected ()), rfl⟩, rfl, rfl⟩, rfl⟩
  exact ((accounting hreach).2.2.2 1 1 _ rfl rfl).2

end SyncPool

end CubridDriver
