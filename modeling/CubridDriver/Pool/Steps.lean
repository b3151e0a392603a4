import CubridDriver.Pool.Inner
import CubridDriver.Lib.Lts

/-!
# Callers of a pool

A pool in use: the data behind its lock, the calls of `get` that have been made,
and the guards that are alive. A step is one lock-held section of one call, or the
outcome of a connect, which is made without the lock. What a step can do does not
depend on what the other callers are about to do, so a list of steps is an
interleaving of any number of callers. Of what a borrower does with its client no
more is said than that it leaves some client in the guard.

This module has the steps both pools share – `get`, `close`, and what a borrower
does with a client – and three facts about them:

* `CubridDriver.PoolState.step_account`: the count and the slots that are held, by
  guards and by calls of `get` past their reservation, change alike;
* `CubridDriver.PoolState.step_withinLimit`: the pool does not grow beyond its limit;
* `CubridDriver.PoolState.step_ne_panic`: as long as the count is at least the
  number of slots held, no step panics.
-/

namespace CubridDriver

/-! ### Calls of `get` -/

/-- Where a call of `get` is. -/
inductive GetPhase
  /-- Waiting for the lock, for its first section. -/
  | waiting
  /-- A slot has been reserved, and the connect has no outcome yet. -/
  | connecting
  /-- The connect has failed; waiting for the lock, for the second section. -/
  | connectFailed (e : Error)
  /-- The call has returned, with a guard or with an error. -/
  | returned (result : Except PoolError Unit)
  /-- The future has been dropped. -/
  | cancelled
  deriving DecidableEq

/-- The call is between its reservation and its outcome. -/
def GetPhase.reserved : GetPhase → Bool
  | .connecting => true
  | .connectFailed _ => true
  | _ => false

/-- The call has no outcome yet. -/
def GetPhase.inFlight : GetPhase → Bool
  | .waiting => true
  | .connecting => true
  | .connectFailed _ => true
  | _ => false

/-! ### States and steps -/

/-- A pool in use. -/
structure PoolState (γ : Type) where
  /-- The data behind the lock. -/
  inner : PoolInner γ
  /-- The calls of `get`, in the order they were made. -/
  gets : List GetPhase
  /-- The clients of the guards that are alive. -/
  guards : List γ

/-- The steps both pools have. A call of `get` is named by its position, and so is
a guard. -/
inductive PoolAction (γ : Type)
  /-- `get` is called. -/
  | call
  /-- The first section of a `get`. -/
  | start (g : ℕ)
  /-- The connect of a `get` returns a client. -/
  | connected (g : ℕ) (client : γ)
  /-- The connect of a `get` returns an error. -/
  | connectError (g : ℕ) (e : Error)
  /-- The second section of a `get`, after a failed connect. -/
  | fail (g : ℕ)
  /-- `close` is called. -/
  | close
  /-- A borrower calls a method of the client of its guard, with effect `op`. -/
  | borrow (i : ℕ) (op : γ → γ)

/-- A step that is not possible in a state. -/
inductive Refused
  /-- No call, guard or task of this name is where the step needs it. -/
  | notEnabled

/-- The steps of the pools are checked computations. -/
abbrev Stepped (σ : Type) := Outcome Refused σ

namespace PoolState

variable {γ : Type} (api : PoolClient γ)

/-- The first section of call `g`, and what it returns at once. -/
def start (s : PoolState γ) (g : ℕ) : PoolState γ :=
  match s.inner.startGet with
  | (.poolClosed, inner) =>
      { s with inner, gets := s.gets.set g (.returned (.error .poolClosed)) }
  | (.idle client, inner) =>
      { inner, gets := s.gets.set g (.returned (.ok ())), guards := s.guards ++ [client] }
  | (.reserved _, inner) => { s with inner, gets := s.gets.set g .connecting }
  | (.exhausted max, inner) =>
      { s with inner, gets := s.gets.set g (.returned (.error (.poolExhausted max))) }

/-- The shared steps. -/
def step (s : PoolState γ) : PoolAction γ → Stepped (PoolState γ)
  | .call => .ok { s with gets := s.gets ++ [.waiting] }
  | .start g =>
      match s.gets[g]? with
      | some .waiting => .ok (s.start g)
      | _ => .err .notEnabled
  | .connected g client =>
      match s.gets[g]? with
      | some .connecting =>
          .ok { s with
            gets := s.gets.set g (.returned (.ok ())), guards := s.guards ++ [client] }
      | _ => .err .notEnabled
  | .connectError g e =>
      match s.gets[g]? with
      | some .connecting => .ok { s with gets := s.gets.set g (.connectFailed e) }
      | _ => .err .notEnabled
  | .fail g =>
      match s.gets[g]? with
      | some (.connectFailed e) => do
          let inner ← s.inner.failGet
          return { s with
            inner, gets := s.gets.set g (.returned (.error (api.fromError e))) }
      | _ => .err .notEnabled
  | .close => .ok { s with inner := s.inner.close }
  | .borrow i op =>
      match s.guards[i]? with
      | some client => .ok { s with guards := s.guards.set i (op client) }
      | none => .err .notEnabled

/-- A pool that has just been built by `new` with this configuration. -/
def Initial (config : PoolConfig) (s : PoolState γ) : Prop :=
  (∃ connect, PoolInner.new api.fromError config connect = .ok s.inner) ∧
    s.gets = [] ∧ s.guards = []

/-! ### Slots that are held -/

/-- The calls of `get` between reservation and outcome. -/
def reservedGets (s : PoolState γ) : ℕ := s.gets.countP GetPhase.reserved

/-- The slots held by guards and by calls of `get`. -/
def held (s : PoolState γ) : ℕ := s.guards.length + s.reservedGets

/-- The calls between reservation and outcome, after a call has moved from the
phase `p` to the phase `q`. -/
theorem countP_reserved_set {gets : List GetPhase} {g : ℕ} {p : GetPhase} (q : GetPhase)
    (h : gets[g]? = some p) :
    (gets.set g q).countP GetPhase.reserved + p.reserved.toNat =
      gets.countP GetPhase.reserved + q.reserved.toNat := by
  obtain ⟨hg, rfl⟩ := List.getElem?_eq_some_iff.mp h
  have hpos : gets[g].reserved = true → 0 < gets.countP GetPhase.reserved := fun hp =>
    List.countP_pos_iff.mpr ⟨gets[g], List.getElem_mem hg, hp⟩
  rw [List.countP_set hg]
  cases hp : gets[g].reserved <;> cases hq : q.reserved <;> simp
  all_goals
    have := hpos hp
    omega

/-- A call between reservation and outcome is counted. -/
theorem reservedGets_pos {s : PoolState γ} {g : ℕ} {p : GetPhase} (h : s.gets[g]? = some p)
    (hp : p.reserved = true) : 0 < s.reservedGets :=
  List.countP_pos_iff.mpr ⟨p, List.mem_of_getElem? h, hp⟩

section Step

variable {api} {s s' : PoolState γ} {a : PoolAction γ} {g : ℕ}

/-! ### What a step can do -/

theorem step_start (h : s.step api (.start g) = .ok s') :
    s.gets[g]? = some .waiting ∧ s' = s.start g := by
  simp only [step] at h
  split at h
  · exact ⟨‹_›, (Outcome.ok.inj h).symm⟩
  · cases h

theorem step_connected {client : γ} (h : s.step api (.connected g client) = .ok s') :
    s.gets[g]? = some .connecting ∧ s' = { s with
      gets := s.gets.set g (.returned (.ok ())), guards := s.guards ++ [client] } := by
  simp only [step] at h
  split at h
  · exact ⟨‹_›, (Outcome.ok.inj h).symm⟩
  · cases h

theorem step_connectError {e : Error} (h : s.step api (.connectError g e) = .ok s') :
    s.gets[g]? = some .connecting ∧ s' = { s with gets := s.gets.set g (.connectFailed e) } := by
  simp only [step] at h
  split at h
  · exact ⟨‹_›, (Outcome.ok.inj h).symm⟩
  · cases h

theorem step_fail (h : s.step api (.fail g) = .ok s') :
    ∃ e n, s.gets[g]? = some (.connectFailed e) ∧ s.inner.activeCount = n + 1 ∧
      s' = { s with
        inner := { s.inner with activeCount := n }
        gets := s.gets.set g (.returned (.error (api.fromError e))) } := by
  simp only [step] at h
  split at h
  · obtain ⟨inner, hinner, hret⟩ := Outcome.bind_eq_ok.mp h
    obtain ⟨n, hn, rfl⟩ := PoolInner.failGet_eq_ok hinner
    exact ⟨_, n, ‹_›, hn, (Outcome.ok.inj hret).symm⟩
  · cases h

theorem step_borrow {i : ℕ} {op : γ → γ} (h : s.step api (.borrow i op) = .ok s') :
    ∃ client, s.guards[i]? = some client ∧
      s' = { s with guards := s.guards.set i (op client) } := by
  simp only [step] at h
  split at h
  · exact ⟨_, ‹_›, (Outcome.ok.inj h).symm⟩
  · cases h

/-- **What the first section of a call can do.** -/
theorem start_cases (s : PoolState γ) (g : ℕ) :
    (s.inner.closed = true ∧
      s.start g = { s with gets := s.gets.set g (.returned (.error .poolClosed)) }) ∨
    (∃ client idle, s.inner.closed = false ∧ s.inner.idle = client :: idle ∧ s.start g =
      { inner := { s.inner with idle, activeCount := s.inner.activeCount + 1 }
        gets := s.gets.set g (.returned (.ok ()))
        guards := s.guards ++ [client] }) ∨
    (s.inner.closed = false ∧ s.inner.idle = [] ∧ s.inner.activeCount < s.inner.config.maxSize ∧
      s.start g = { s with
        inner := { s.inner with activeCount := s.inner.activeCount + 1 }
        gets := s.gets.set g .connecting }) ∨
    (s.inner.closed = false ∧ s.inner.idle = [] ∧ s.inner.config.maxSize ≤ s.inner.activeCount ∧
      s.start g = { s with
        gets := s.gets.set g (.returned (.error (.poolExhausted s.inner.config.maxSize))) }) := by
  unfold start
  rcases s.inner.startGet_cases with ⟨hc, h⟩ | ⟨client, idle, hc, hidle, h⟩ |
      ⟨hc, hidle, hroom, h⟩ | ⟨hc, hidle, hfull, h⟩
  · exact Or.inl ⟨hc, by rw [h]⟩
  · exact Or.inr (Or.inl ⟨client, idle, hc, hidle, by rw [h]⟩)
  · exact Or.inr (Or.inr (Or.inl ⟨hc, hidle, hroom, by rw [h]⟩))
  · exact Or.inr (Or.inr (Or.inr ⟨hc, hidle, hfull, by rw [h]⟩))

/-! ### The three facts -/

/-- **The count and the slots held change alike.** -/
theorem step_account (h : s.step api a = .ok s') :
    s'.inner.activeCount + s.held = s.inner.activeCount + s'.held := by
  cases a with
  | call =>
    obtain rfl := Outcome.ok.inj h
    simp [held, reservedGets, GetPhase.reserved]
  | start g =>
    obtain ⟨hg, rfl⟩ := step_start h
    rcases s.start_cases g with ⟨-, h⟩ | ⟨client, idle, -, -, h⟩ | ⟨-, -, -, h⟩ | ⟨-, -, -, h⟩
    · have hcount := countP_reserved_set (.returned (.error .poolClosed)) hg
      simp_all [held, reservedGets, GetPhase.reserved]
    · have hcount := countP_reserved_set (.returned (.ok ())) hg
      simp_all [held, reservedGets, GetPhase.reserved]
      omega
    · have hcount := countP_reserved_set .connecting hg
      simp_all [held, reservedGets, GetPhase.reserved]
      omega
    -- neither reserved nor handed out: the call is over, and held nothing
    · have hcount :=
        countP_reserved_set (.returned (.error (.poolExhausted s.inner.config.maxSize))) hg
      simp_all [held, reservedGets, GetPhase.reserved]
  | connected g client =>
    obtain ⟨hg, rfl⟩ := step_connected h
    have hcount := countP_reserved_set (.returned (.ok ())) hg
    simp_all [held, reservedGets, GetPhase.reserved]
    omega
  | connectError g e =>
    obtain ⟨hg, rfl⟩ := step_connectError h
    have hcount := countP_reserved_set (.connectFailed e) hg
    simp_all [held, reservedGets, GetPhase.reserved]
  | fail g =>
    obtain ⟨e, n, hg, hn, rfl⟩ := step_fail h
    have hcount := countP_reserved_set (.returned (.error (api.fromError e))) hg
    simp_all [held, reservedGets, GetPhase.reserved]
    omega
  | close =>
    obtain rfl := Outcome.ok.inj h
    rfl
  | borrow i op =>
    obtain ⟨client, -, rfl⟩ := step_borrow h
    simp [held, reservedGets]

/-- No step changes the configuration. -/
theorem step_config (h : s.step api a = .ok s') : s'.inner.config = s.inner.config := by
  cases a with
  | start g =>
    obtain ⟨-, rfl⟩ := step_start h
    rcases s.start_cases g with ⟨-, h⟩ | ⟨_, _, -, -, h⟩ | ⟨-, -, -, h⟩ | ⟨-, -, -, h⟩ <;> rw [h]
  | connected g client => rw [(step_connected h).2]
  | connectError g e => rw [(step_connectError h).2]
  | fail g =>
    obtain ⟨e, n, -, -, rfl⟩ := step_fail h
    rfl
  | borrow i op =>
    obtain ⟨client, -, rfl⟩ := step_borrow h
    rfl
  | call => rw [← Outcome.ok.inj h]
  | close => rw [← Outcome.ok.inj h, PoolInner.close]

/-- The connections of the pool, idle and checked out, fit its limit. -/
def WithinLimit (s : PoolState γ) : Prop :=
  s.inner.idle.length + s.inner.activeCount ≤ s.inner.config.maxSize

/-- **The pool stays within its limit**: a slot is reserved only when one is free. -/
theorem step_withinLimit (hs : s.WithinLimit) (h : s.step api a = .ok s') : s'.WithinLimit := by
  rw [WithinLimit] at hs ⊢
  cases a with
  | start g =>
    obtain ⟨-, rfl⟩ := step_start h
    rcases s.start_cases g with ⟨-, h⟩ | ⟨client, idle, -, hidle, h⟩ | ⟨-, hidle, hroom, h⟩ |
        ⟨-, -, -, h⟩
    · rwa [h]
    · -- the slot of the idle client becomes the slot of the guard
      rw [hidle, List.length_cons] at hs
      rw [h]
      simp only
      omega
    · rw [h, hidle, List.length_nil]
      simp only
      omega
    · rwa [h]
  | connected g client => rwa [(step_connected h).2]
  | connectError g e => rwa [(step_connectError h).2]
  | fail g =>
    obtain ⟨e, n, -, hn, rfl⟩ := step_fail h
    simp only
    omega
  | borrow i op =>
    obtain ⟨client, -, rfl⟩ := step_borrow h
    exact hs
  | call => rwa [← Outcome.ok.inj h]
  | close =>
    rw [← Outcome.ok.inj h, PoolInner.close]
    simp only [List.length_nil]
    omega

/-- **No step underflows** while the count is at least the number of slots held. -/
theorem step_ne_panic (hs : s.held ≤ s.inner.activeCount) : s.step api a ≠ .panic := by
  intro h
  cases a with
  | fail g =>
    simp only [step] at h
    split at h
    · rename_i e hg
      have hpos : 0 < s.reservedGets := reservedGets_pos hg rfl
      rcases Outcome.bind_eq_panic.mp h with hpanic | ⟨inner, -, hret⟩
      · rw [PoolInner.failGet_eq_panic] at hpanic
        rw [held] at hs
        omega
      · cases hret
    · cases h
  | call => cases h
  | close => cases h
  | _ =>
    simp only [step] at h
    split at h <;> cases h

/-- A new pool: nothing is held, and it is within its limit. -/
theorem Initial.spec {config : PoolConfig} (h : Initial api config s) :
    s.inner.config = config ∧ s.inner.closed = false ∧ s.inner.activeCount = 0 ∧ s.held = 0 ∧
      s.WithinLimit := by
  obtain ⟨⟨connect, hnew⟩, hgets, hguards⟩ := h
  obtain ⟨rfl, hactive, hclosed, hidle⟩ := PoolInner.new_eq_ok hnew
  refine ⟨rfl, hclosed, hactive, by simp [held, reservedGets, hgets, hguards], ?_⟩
  rwa [WithinLimit, hactive, Nat.add_zero]

end Step

end PoolState

end CubridDriver
