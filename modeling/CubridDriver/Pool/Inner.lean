import CubridDriver.Connection
import CubridDriver.Lib.Outcome

/-!
# The shared state of a connection pool

The blocking and the asynchronous pool keep the same data behind their lock, and
their `get` has the same two sections under it. Each section is a function here,
from the data to the data, so that what an interleaving can observe is exactly what
lies between two sections.

The type of the clients is a parameter: a pool moves its clients about, and asks
one thing of them, whether they are closed.
-/

namespace CubridDriver

/-! ### Configuration and errors -/

/-- Pool errors. -/
inductive PoolError
  /-- Sync client error. -/
  | client (e : Error)
  /-- Async client error. -/
  | asyncClient (e : Error)
  /-- No available connections and at max capacity. -/
  | poolExhausted (max : ℕ)
  /-- Pool is closed. -/
  | poolClosed
  /-- Invalid configuration. -/
  | invalidConfig (message : String)
  deriving DecidableEq, Repr

/-- Configuration for the connection pool. -/
structure PoolConfig where
  /-- DSN string for CUBRID connection. -/
  dsn : String
  /-- Maximum number of connections in the pool. -/
  maxSize : ℕ
  /-- Minimum number of idle connections to maintain. -/
  minIdle : ℕ
  deriving DecidableEq, Repr

/-- A pool config with the given DSN. -/
def PoolConfig.new (dsn : String) : PoolConfig := ⟨dsn, 10, 1⟩

/-- The checks a pool makes of its configuration. -/
def PoolConfig.validate (config : PoolConfig) : Except PoolError Unit :=
  if config.dsn.isEmpty then .error (.invalidConfig "DSN cannot be empty")
  else if config.maxSize = 0 then .error (.invalidConfig "max_size must be greater than 0")
  else if config.minIdle > config.maxSize then
    .error (.invalidConfig "min_idle cannot exceed max_size")
  else .ok ()

/-- **What a validated configuration promises.** -/
theorem PoolConfig.validate_eq_ok {config : PoolConfig} :
    config.validate = .ok () ↔
      config.dsn.isEmpty = false ∧ 0 < config.maxSize ∧ config.minIdle ≤ config.maxSize := by
  rw [validate]
  split_ifs with h₁ h₂ h₃ <;> simp_all
  all_goals omega

/-! ### The clients of a pool -/

/-- What a pool knows of the type of its clients. -/
structure PoolClient (γ : Type) where
  /-- Whether the client has been closed. -/
  isClosed : γ → Bool
  /-- The pool error that a failed connect becomes. -/
  fromError : Error → PoolError

/-- The clients of the blocking pool. -/
def syncClient (τ : Type) : PoolClient (Client τ) := ⟨Client.isClosed, .client⟩

/-- The clients of the asynchronous pool. -/
def asyncClient (τ : Type) : PoolClient (Client τ) := ⟨Client.isClosed, .asyncClient⟩

/-! ### The data behind the lock -/

/-- The pool data behind the lock. -/
structure PoolInner (γ : Type) where
  /-- The configuration. -/
  config : PoolConfig
  /-- The idle connections, the next one to hand out first. -/
  idle : List γ
  /-- The number of connections counted as checked out. -/
  activeCount : ℕ
  /-- Whether the pool is closed. -/
  closed : Bool
  deriving DecidableEq, Repr

/-- Pool status information. -/
structure PoolStatus where
  /-- Maximum pool size. -/
  maxSize : ℕ
  /-- Number of idle connections. -/
  idleCount : ℕ
  /-- Number of active (checked out) connections. -/
  activeCount : ℕ
  /-- Whether the pool is closed. -/
  closed : Bool
  deriving DecidableEq, Repr

/-- Total connections (idle + active). -/
def PoolStatus.total (s : PoolStatus) : ℕ := s.idleCount + s.activeCount

/-- What the first section of `get` finds. -/
inductive GetStart (γ : Type)
  /-- The pool is closed. -/
  | poolClosed
  /-- An idle connection, now checked out. -/
  | idle (client : γ)
  /-- A slot has been reserved, and a connection to this DSN is to be made. -/
  | reserved (dsn : String)
  /-- No slot is free. -/
  | exhausted (max : ℕ)

namespace PoolInner

variable {γ ε : Type}

/-- A new pool: the configuration is checked, then `min_idle` connections are made,
`connect i` being the outcome of the `i`-th. -/
def new (fromError : Error → PoolError) (config : PoolConfig) (connect : ℕ → Except Error γ) :
    Except PoolError (PoolInner γ) := do
  config.validate
  let idle ← (List.range config.minIdle).mapM fun i => (connect i).mapError fromError
  return { config, idle, activeCount := 0, closed := false }

/-- Pool statistics. -/
def status (inner : PoolInner γ) : PoolStatus :=
  ⟨inner.config.maxSize, inner.idle.length, inner.activeCount, inner.closed⟩

/-- The first section of `get`: reserve or pop. -/
def startGet (inner : PoolInner γ) : GetStart γ × PoolInner γ :=
  if inner.closed then (.poolClosed, inner)
  else match inner.idle with
    | client :: idle =>
        (.idle client, { inner with idle, activeCount := inner.activeCount + 1 })
    | [] =>
        if inner.activeCount + inner.idle.length < inner.config.maxSize then
          (.reserved inner.config.dsn, { inner with activeCount := inner.activeCount + 1 })
        else (.exhausted inner.config.maxSize, inner)

/-- The second section of `get`, after a failed connect: `active_count -= 1`. -/
def failGet (inner : PoolInner γ) : Outcome ε (PoolInner γ) := do
  let activeCount ← Outcome.checkedSub inner.activeCount 1
  return { inner with activeCount }

/-- Close the pool and all idle connections. -/
def close (inner : PoolInner γ) : PoolInner γ := { inner with closed := true, idle := [] }

/-- The section that takes a client back: the count goes down, and the client joins
the idle ones when the pool keeps it. -/
def takeBack (inner : PoolInner γ) (keep : Bool) (client : γ) : Outcome ε (PoolInner γ) := do
  let activeCount ← Outcome.checkedSub inner.activeCount 1
  return { inner with
    activeCount, idle := if keep then inner.idle ++ [client] else inner.idle }

/-! ### What the sections do -/

/-- A list of connects that all succeed gives as many connections. -/
theorem length_of_mapM_eq_ok {α β : Type} {f : α → Except PoolError β} {l : List α} {r : List β}
    (h : l.mapM f = .ok r) : r.length = l.length := by
  induction l generalizing r with
  | nil =>
    obtain rfl := Except.ok.inj h
    rfl
  | cons a l ih =>
    rw [List.mapM_cons] at h
    cases hfa : f a with
    | error e => simp [hfa, bind, Except.bind] at h
    | ok b =>
      cases hl : l.mapM f with
      | error e => simp [hfa, hl, bind, Except.bind] at h
      | ok bs =>
        simp only [hfa, hl, bind, Except.bind, pure, Except.pure, Except.ok.injEq] at h
        rw [← h, List.length_cons, List.length_cons, ih hl]

/-- A new pool keeps its configuration, has no connection checked out, and no more
idle ones than it may have at all. -/
theorem new_eq_ok {fromError : Error → PoolError} {config : PoolConfig}
    {connect : ℕ → Except Error γ} {inner : PoolInner γ}
    (h : new fromError config connect = .ok inner) :
    inner.config = config ∧ inner.activeCount = 0 ∧ inner.closed = false ∧
      inner.idle.length ≤ config.maxSize := by
  rw [new] at h
  cases hvalid : config.validate with
  | error e => simp [hvalid, bind, Except.bind] at h
  | ok u =>
    cases hidle : (List.range config.minIdle).mapM fun i => (connect i).mapError fromError with
    | error e => simp [hvalid, hidle, bind, Except.bind] at h
    | ok idle =>
      simp only [hvalid, hidle, bind, Except.bind, pure, Except.pure, Except.ok.injEq] at h
      have hle := (PoolConfig.validate_eq_ok.mp hvalid).2.2
      have hlen := length_of_mapM_eq_ok hidle
      rw [List.length_range] at hlen
      subst h
      exact ⟨rfl, rfl, rfl, hlen ▸ hle⟩

/-- **What the first section of `get` can do**: refuse, hand out an idle connection,
or reserve a slot. The count goes up in the last two cases. -/
theorem startGet_cases (inner : PoolInner γ) :
    (inner.closed = true ∧ inner.startGet = (.poolClosed, inner)) ∨
    (∃ client idle, inner.closed = false ∧ inner.idle = client :: idle ∧
      inner.startGet =
        (.idle client, { inner with idle, activeCount := inner.activeCount + 1 })) ∨
    (inner.closed = false ∧ inner.idle = [] ∧ inner.activeCount < inner.config.maxSize ∧
      inner.startGet =
        (.reserved inner.config.dsn, { inner with activeCount := inner.activeCount + 1 })) ∨
    (inner.closed = false ∧ inner.idle = [] ∧ inner.config.maxSize ≤ inner.activeCount ∧
      inner.startGet = (.exhausted inner.config.maxSize, inner)) := by
  obtain ⟨config, idle, activeCount, closed⟩ := inner
  cases closed with
  | true => exact Or.inl ⟨rfl, rfl⟩
  | false =>
    cases idle with
    | cons client idle => exact Or.inr (Or.inl ⟨client, idle, rfl, rfl, rfl⟩)
    | nil =>
      by_cases hroom : activeCount < config.maxSize
      · exact Or.inr (Or.inr (Or.inl ⟨rfl, rfl, hroom, by simp [startGet, hroom]⟩))
      · exact Or.inr (Or.inr (Or.inr ⟨rfl, rfl, by simpa using hroom, by simp [startGet, hroom]⟩))

theorem failGet_eq_ok {inner inner' : PoolInner γ}
    (h : (inner.failGet : Outcome ε (PoolInner γ)) = .ok inner') :
    ∃ n, inner.activeCount = n + 1 ∧ inner' = { inner with activeCount := n } := by
  obtain ⟨n, hn, hret⟩ := Outcome.bind_eq_ok.mp h
  exact ⟨n, Outcome.checkedSub_eq_ok.mp hn, (Outcome.ok.inj hret).symm⟩

theorem failGet_eq_panic {inner : PoolInner γ} :
    (inner.failGet : Outcome ε (PoolInner γ)) = .panic ↔ inner.activeCount = 0 := by
  rw [failGet, Outcome.bind_eq_panic, Outcome.checkedSub_eq_panic]
  simp

theorem takeBack_eq_ok {inner inner' : PoolInner γ} {keep : Bool} {client : γ}
    (h : (inner.takeBack keep client : Outcome ε (PoolInner γ)) = .ok inner') :
    ∃ n, inner.activeCount = n + 1 ∧ inner' =
      { inner with
        activeCount := n, idle := if keep then inner.idle ++ [client] else inner.idle } := by
  obtain ⟨n, hn, hret⟩ := Outcome.bind_eq_ok.mp h
  exact ⟨n, Outcome.checkedSub_eq_ok.mp hn, (Outcome.ok.inj hret).symm⟩

theorem takeBack_eq_panic {inner : PoolInner γ} {keep : Bool} {client : γ} :
    (inner.takeBack keep client : Outcome ε (PoolInner γ)) = .panic ↔ inner.activeCount = 0 := by
  rw [takeBack, Outcome.bind_eq_panic, Outcome.checkedSub_eq_panic]
  simp

end PoolInner

end CubridDriver
