import CubridDriver.Pool.Async

/-!
# Slots the asynchronous pool loses

By `CubridDriver.AsyncPool.run_slack` a slot is lost in two ways only. Here is what
each of them means for the pool.

* Once no guard is alive, no call in flight and no return task pending, the count is
  zero, and an open pool can hand out `max_size` connections again, exactly when no
  guard was dropped while its client was closed
  (`CubridDriver.AsyncPool.slots_return_iff`). The blocking pool takes such a slot
  back.
* Dropping the future of a `get` gives back what the call had reserved exactly when
  it was still waiting for its first section
  (`CubridDriver.AsyncPool.cancel_gives_back_iff`).
-/

namespace CubridDriver

namespace AsyncPool

variable {γ : Type} {api : PoolClient γ} {config : PoolConfig}

/-! ### Handing out connections -/

/-- A step of a caller that gets a connection, its connect returning `client`. -/
def IsGet (client : γ) : AsyncAction γ → Prop
  | .shared .call => True
  | .shared (.start _) => True
  | .shared (.connected _ c) => c = client
  | _ => False

/-- From this state, `n` more connections can be handed out, provided the server
accepts connects. -/
def CanHandOut (api : PoolClient γ) (config : PoolConfig) (s : AsyncPoolState γ) (n : ℕ) : Prop :=
  ∀ client, ∃ as t, (∀ a ∈ as, IsGet client a) ∧ (lts api config).run s as = .ok t ∧
    t.guards.length = s.guards.length + n

/-- One more connection can be handed out while the count is below the limit. -/
theorem handOut_one (api : PoolClient γ) (config : PoolConfig) (client : γ)
    {s : AsyncPoolState γ} (hopen : s.inner.closed = false)
    (hroom : s.inner.activeCount < s.inner.config.maxSize) :
    ∃ as t, (∀ a ∈ as, IsGet client a) ∧ (lts api config).run s as = .ok t ∧
      t.guards.length = s.guards.length + 1 ∧ t.inner.closed = false ∧
      t.inner.config = s.inner.config ∧ t.inner.activeCount = s.inner.activeCount + 1 := by
  -- the new call is the last one of the list
  let s₁ : AsyncPoolState γ := { s with gets := s.gets ++ [.waiting] }
  have hg : s₁.gets[s.gets.length]? = some .waiting := by simp [s₁]
  have hstart : step api s₁ (.shared (.start s.gets.length)) =
      .ok { s₁ with toPoolState := s₁.toPoolState.start s.gets.length } := by
    simp only [step, PoolState.step, hg]
    rfl
  rcases s₁.toPoolState.start_cases s.gets.length with ⟨hclosed, -⟩ | ⟨c, idle, -, -, h⟩ |
      ⟨-, -, -, h⟩ | ⟨-, -, hfull, -⟩
  · rw [hopen] at hclosed
    cases hclosed
  · -- an idle connection is handed out
    rw [h] at hstart
    refine ⟨[.shared .call, .shared (.start s.gets.length)], _, by simp [IsGet],
      Lts.run_cons_eq_ok.mpr ⟨s₁, rfl, Lts.run_cons_eq_ok.mpr ⟨_, hstart, rfl⟩⟩, ?_⟩
    exact ⟨by simp [s₁], hopen, rfl, rfl⟩
  · -- a slot is reserved, and the connect succeeds
    rw [h] at hstart
    have hconnected : step api
        { s₁ with
          inner := { s₁.inner with activeCount := s₁.inner.activeCount + 1 }
          gets := s₁.gets.set s.gets.length .connecting }
        (.shared (.connected s.gets.length client)) =
        .ok { s₁ with
          inner := { s₁.inner with activeCount := s₁.inner.activeCount + 1 }
          gets := (s₁.gets.set s.gets.length .connecting).set s.gets.length (.returned (.ok ()))
          guards := s₁.guards ++ [client] } := by
      have hlt := (List.getElem?_eq_some_iff.mp hg).1
      simp only [step, PoolState.step, List.getElem?_set_self hlt]
      rfl
    refine ⟨[.shared .call, .shared (.start s.gets.length),
        .shared (.connected s.gets.length client)], _, by simp [IsGet],
      Lts.run_cons_eq_ok.mpr ⟨s₁, rfl, Lts.run_cons_eq_ok.mpr ⟨_, hstart,
        Lts.run_cons_eq_ok.mpr ⟨_, hconnected, rfl⟩⟩⟩, ?_⟩
    exact ⟨by simp [s₁], hopen, rfl, rfl⟩
  · exact absurd hroom (Nat.not_lt.mpr hfull)

/-- **An open pool can hand out as many connections as the count leaves room for.** -/
theorem canHandOut {s : AsyncPoolState γ} {n : ℕ} (hopen : s.inner.closed = false)
    (hroom : s.inner.activeCount + n ≤ s.inner.config.maxSize) : CanHandOut api config s n := by
  intro client
  induction n generalizing s with
  | zero => exact ⟨[], s, by simp, rfl, rfl⟩
  | succ n ih =>
    obtain ⟨as, t, has, hrun, hguards, hclosed, hconfig, hactive⟩ :=
      handOut_one api config client hopen (by omega)
    obtain ⟨bs, u, hbs, hrun', hguards'⟩ := ih hclosed (by rw [hconfig, hactive]; omega)
    refine ⟨as ++ bs, u, ?_, Lts.run_append_eq_ok.mpr ⟨t, hrun, hrun'⟩, by omega⟩
    intro a ha
    rcases List.mem_append.mp ha with ha | ha
    · exact has a ha
    · exact hbs a ha

/-! ### When everything has come back -/

/-- No guard is alive, no call is in flight, and no return task is pending. -/
structure Quiescent (s : AsyncPoolState γ) : Prop where
  /-- No guard is alive. -/
  guards_eq : s.guards = []
  /-- No call is in flight. -/
  not_inFlight : ∀ p ∈ s.gets, p.inFlight = false
  /-- No return task is pending. -/
  tasks_eq : s.tasks = []

theorem Quiescent.held_eq_zero {s : AsyncPoolState γ} (h : Quiescent s) : held s = 0 := by
  have hreserved : s.toPoolState.reservedGets = 0 := by
    rw [PoolState.reservedGets, List.countP_eq_zero]
    intro p hp
    have := h.not_inFlight p hp
    cases p <;> simp_all [GetPhase.inFlight, GetPhase.reserved]
  rw [held, PoolState.held, hreserved, h.guards_eq, h.tasks_eq]
  rfl

/-- No future of a `get` is dropped. -/
def NoCancel (as : List (AsyncAction γ)) : Prop := ∀ g, AsyncAction.cancel g ∉ as

/-- No guard is dropped while its client is closed. -/
def NoDeadDrop (api : PoolClient γ) (config : PoolConfig) (s : AsyncPoolState γ)
    (as : List (AsyncAction γ)) : Prop :=
  ∀ bs i cs s' client, as = bs ++ .dropGuard i :: cs → (lts api config).run s bs = .ok s' →
    s'.guards[i]? = some client → api.isClosed client = false

/-- Without a dropped future, a run leaks nothing exactly when no guard was dropped with
a closed client. -/
theorem tally_leak_eq_zero_iff {s t : AsyncPoolState γ} {as : List (AsyncAction γ)}
    (hrun : (lts api config).run s as = .ok t) (has : NoCancel as) :
    (lts api config).tally (leak api) s as = 0 ↔ NoDeadDrop api config s as := by
  rw [Lts.tally_eq_zero_iff hrun]
  constructor
  · intro h bs i cs s' client heq hbs hi
    have hleak := h bs _ cs s' heq hbs
    simp only [leak, hi] at hleak
    cases hclosed : api.isClosed client with
    | false => rfl
    | true => simp [hclosed] at hleak
  · intro h bs a cs s' heq hbs
    cases a with
    | shared a => rfl
    | dropGuard i =>
      cases hi : s'.guards[i]? with
      | none => simp only [leak, hi]
      | some client => simp only [leak, hi, h bs i cs s' client heq hbs hi, Bool.toNat_false]
    | returnTask t => rfl
    -- the other kind of leak is excluded
    | cancel g => exact absurd (by simp [heq]) (has g)

/-- **When the slots come back.** In a run in which no future of a `get` is dropped,
and which has come to rest, the count is zero – and an open pool can hand out `max_size`
connections – exactly when no guard was dropped while its client was closed. -/
theorem slots_return_iff {s t : AsyncPoolState γ} {as : List (AsyncAction γ)}
    (hinit : (lts api config).init s) (hrun : (lts api config).run s as = .ok t)
    (has : NoCancel as) (hrest : Quiescent t) :
    (t.inner.activeCount = 0 ∧
        (t.inner.closed = false → CanHandOut api config t config.maxSize)) ↔
      NoDeadDrop api config s as := by
  -- at rest nothing is held, so the count is what the run has leaked
  have hslack := run_slack hrun
  rw [slack_of_init hinit, slack, hrest.held_eq_zero] at hslack
  have hconfig := (reachable_inv ⟨s, as, hinit, hrun⟩).config_eq
  rw [← tally_leak_eq_zero_iff hrun has]
  constructor
  · rintro ⟨hactive, -⟩
    omega
  · intro hleak
    have hactive : t.inner.activeCount = 0 := by omega
    exact ⟨hactive, fun hopen => canHandOut hopen (by rw [hactive, hconfig]; omega)⟩

/-- A new pool of one connection. -/
def newPool : AsyncPoolState (Client Unit) where
  inner := ⟨⟨"cubrid://localhost/demodb", 1, 0⟩, [], 0, false⟩
  gets := []
  guards := []
  tasks := []

theorem newPool_init : (lts (asyncClient Unit) newPool.inner.config).init newPool :=
  ⟨⟨⟨fun _ => .ok (.connected ()), rfl⟩, rfl, rfl⟩, rfl⟩

/-- The first call gets a connection. -/
def firstGet : List (AsyncAction (Client Unit)) :=
  [.shared .call, .shared (.start 0), .shared (.connected 0 (.connected ()))]

/-- A guard that is dropped with a live client loses no slot: its task has returned the
client. -/
theorem slots_return_live :
    NoDeadDrop (asyncClient Unit) newPool.inner.config newPool
      (firstGet ++ [.dropGuard 0, .returnTask 0]) := by
  have hrun : (lts (asyncClient Unit) newPool.inner.config).run newPool
      (firstGet ++ [.dropGuard 0, .returnTask 0]) =
      .ok ⟨⟨⟨newPool.inner.config, [.connected ()], 0, false⟩, [.returned (.ok ())], []⟩, []⟩ := rfl
  exact (slots_return_iff newPool_init hrun (by simp [NoCancel, firstGet])
    ⟨rfl, by simp [GetPhase.inFlight], rfl⟩).mp ⟨rfl, fun _ => canHandOut rfl (Nat.le_refl 1)⟩

/-- **A guard whose client its borrower has closed takes its slot with it**: the pool
comes to rest with the count at one, and the next call finds it exhausted. -/
theorem slot_lost_by_close :
    ¬∀ (s t : AsyncPoolState (Client Unit)) (as : List (AsyncAction (Client Unit))),
      (lts (asyncClient Unit) newPool.inner.config).init s →
      (lts (asyncClient Unit) newPool.inner.config).run s as = .ok t →
      NoCancel as → Quiescent t → t.inner.activeCount = 0 := by
  intro h
  have hzero := h newPool ⟨⟨⟨newPool.inner.config, [], 1, false⟩, [.returned (.ok ())], []⟩, []⟩
    (firstGet ++ [.shared (.borrow 0 Client.close), .dropGuard 0]) newPool_init rfl
    (by simp [NoCancel, firstGet]) ⟨rfl, by simp [GetPhase.inFlight], rfl⟩
  exact absurd hzero (by decide)

/-! ### Cancelling a call -/

section Cancel

variable {s₀ s s' : AsyncPoolState γ} {as : List (AsyncAction γ)}

/-- What cancelling a call leaks. -/
theorem leak_cancel_eq_zero_iff {g : ℕ} (h : step api s (.cancel g) = .ok s') :
    leak api s (.cancel g) = 0 ↔ s.gets[g]? = some .waiting := by
  obtain ⟨p, hg, hp, -⟩ := step_cancel h
  simp only [leak, hg, Option.some.injEq]
  cases p <;> simp_all [GetPhase.inFlight, GetPhase.reserved]

/-- **When cancelling a call gives back what it had reserved.** The call is made in
`s₀`, and its future is dropped in `s`. The count and what is held – by guards, by
return tasks and by the other calls – then differ by as much as before the call was
made, up to what others have leaked in between, exactly when the call was still waiting
for its first section. -/
theorem cancel_gives_back_iff (hrun : (lts api config).run s₀ (.shared .call :: as) = .ok s)
    (hcancel : step api s (.cancel s₀.gets.length) = .ok s') :
    slack s' = slack s₀ + (lts api config).tally (leak api) s₀ (.shared .call :: as) ↔
      s.gets[s₀.gets.length]? = some .waiting := by
  rw [step_slack hcancel, run_slack hrun, ← leak_cancel_eq_zero_iff hcancel]
  omega

end Cancel

/-- A call that is cancelled before it has the lock. -/
theorem cancel_gives_back_waiting :
    slack ⟨⟨newPool.inner, [.cancelled], []⟩, []⟩ = slack newPool := by
  have hrun : (lts (asyncClient Unit) newPool.inner.config).run newPool [.shared .call] =
      .ok ⟨⟨newPool.inner, [.waiting], []⟩, []⟩ := rfl
  have hcancel : step (asyncClient Unit) ⟨⟨newPool.inner, [.waiting], []⟩, []⟩
      (.cancel newPool.gets.length) = .ok ⟨⟨newPool.inner, [.cancelled], []⟩, []⟩ := rfl
  exact (cancel_gives_back_iff hrun hcancel).mpr rfl

/-- **A call whose future is dropped during its connect keeps its slot.** -/
theorem slot_lost_by_cancel :
    ¬∀ (s₀ s s' : AsyncPoolState (Client Unit)) (as : List (AsyncAction (Client Unit))),
      (lts (asyncClient Unit) newPool.inner.config).Reachable s₀ →
      (lts (asyncClient Unit) newPool.inner.config).run s₀ (.shared .call :: as) = .ok s →
      step (asyncClient Unit) s (.cancel s₀.gets.length) = .ok s' →
      slack s' = slack s₀ + (lts (asyncClient Unit) newPool.inner.config).tally
        (leak (asyncClient Unit)) s₀ (.shared .call :: as) := by
  intro h
  have hslack := h newPool ⟨⟨⟨newPool.inner.config, [], 1, false⟩, [.connecting], []⟩, []⟩
    ⟨⟨⟨newPool.inner.config, [], 1, false⟩, [.cancelled], []⟩, []⟩
    [.shared (.start 0)] (Lts.Reachable.of_init newPool_init) rfl rfl
  exact absurd hslack (by decide)

end AsyncPool

end CubridDriver
