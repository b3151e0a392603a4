import CubridDriver.Pool.Sync
import CubridDriver.Pool.Leaks
import Mathlib.Data.List.Nodup
import Mathlib.Data.List.Perm.Basic

/-!
# Who has a connection

A connection of a pool is idle, or in a guard, or held by a return task. A step moves it from
one of these places to another; it never copies it, and it loses it in two cases only: `close`
lets go of the idle connections, and a client that comes back is dropped when it is dead or the
pool is closed.

* `CubridDriver.pool_owned` says so of whole runs, in any interleaving: the connections that
  have been made are the ones that are there and the ones that are gone. So no connection is
  ever lent to two borrowers, and none that is gone comes back.
* `CubridDriver.pool_fifo` is about the order. The idle connections are a queue, and a
  connection is made only when every connection that has been put back is lent again.

Connections are told apart by a tag, which what a borrower does leaves alone. Nothing else is
known of them.
-/

namespace CubridDriver

open List

/-! ### What the shared steps do -/

section Shared

variable {γ ι : Type} {api : PoolClient γ} (tag : γ → ι)

/-- A borrower leaves its client the connection that it is. -/
def PoolAction.Keeps : PoolAction γ → Prop
  | .borrow _ op => ∀ client, tag (op client) = tag client
  | _ => True

/-- The connection that a step makes. -/
def PoolAction.made : PoolAction γ → List ι
  | .connected _ client => [tag client]
  | _ => []

namespace PoolState

/-- The connections that are idle, and the ones in guards. -/
def connections (s : PoolState γ) : List ι := (s.inner.idle ++ s.guards).map tag

/-- The connections that a step lets go. -/
def gone (s : PoolState γ) : PoolAction γ → List ι
  | .close => s.inner.idle.map tag
  | _ => []

/-- The clients that a step takes out of the idle ones. -/
def taken (s : PoolState γ) : PoolAction γ → List γ
  | .start _ =>
      match s.inner.startGet.1 with
      | .idle client => [client]
      | _ => []
  | .close => s.inner.idle
  | _ => []

variable {tag} {s s' : PoolState γ} {a : PoolAction γ}

/-- What the first section of a call takes out. -/
theorem taken_start (s : PoolState γ) (g : ℕ) :
    s.inner.idle = s.taken (.start g) ++ (s.start g).inner.idle := by
  rw [taken, start]
  rcases s.inner.startGet_cases with ⟨-, h⟩ | ⟨client, idle, -, hidle, h⟩ | ⟨-, hidle, -, h⟩ |
      ⟨-, hidle, -, h⟩
  · rw [h]
    rfl
  · rw [h, hidle]
    rfl
  · rw [h]
    rfl
  · rw [h]
    rfl

/-- **A shared step puts nothing back**, and it takes from the front. -/
theorem step_queue (h : s.step api a = .ok s') : s.inner.idle = s.taken a ++ s'.inner.idle := by
  cases a with
  | call =>
    obtain rfl := Outcome.ok.inj h
    rfl
  | start g =>
    obtain ⟨-, rfl⟩ := step_start h
    exact taken_start s g
  | connected g client =>
    obtain ⟨-, rfl⟩ := step_connected h
    rfl
  | connectError g e =>
    obtain ⟨-, rfl⟩ := step_connectError h
    rfl
  | fail g =>
    obtain ⟨e, n, -, -, rfl⟩ := step_fail h
    rfl
  | close =>
    obtain rfl := Outcome.ok.inj h
    exact (append_nil _).symm
  | borrow i op =>
    obtain ⟨client, -, rfl⟩ := step_borrow h
    rfl

/-- Only `close` closes the pool. -/
theorem step_closed_eq (ha : a ≠ .close) (h : s.step api a = .ok s') :
    s'.inner.closed = s.inner.closed := by
  cases a with
  | call => rw [← Outcome.ok.inj h]
  | start g =>
    obtain ⟨-, rfl⟩ := step_start h
    rcases s.start_cases g with ⟨-, h⟩ | ⟨_, _, -, -, h⟩ | ⟨-, -, -, h⟩ | ⟨-, -, -, h⟩ <;> rw [h]
  | connected g client => rw [(step_connected h).2]
  | connectError g e => rw [(step_connectError h).2]
  | fail g =>
    obtain ⟨e, n, -, -, rfl⟩ := step_fail h
    rfl
  | close => exact absurd rfl ha
  | borrow i op =>
    obtain ⟨client, -, rfl⟩ := step_borrow h
    rfl

/-- The first section of a call moves a connection into a guard, or none. -/
theorem connections_start (s : PoolState γ) (g : ℕ) :
    (s.connections tag).Perm ((s.start g).connections tag) := by
  rcases s.start_cases g with ⟨-, h⟩ | ⟨client, idle, -, hidle, h⟩ | ⟨-, -, -, h⟩ | ⟨-, -, -, h⟩
  · rw [h]
    exact .refl _
  · rw [h, connections, connections, hidle]
    refine Perm.map tag ?_
    calc client :: idle ++ s.guards = client :: (idle ++ s.guards) := rfl
      _ ~ idle ++ client :: s.guards := perm_middle.symm
      _ ~ idle ++ (s.guards ++ [client]) := (perm_append_singleton _ _).symm.append_left _
  · rw [h]
    exact .refl _
  · rw [h]
    exact .refl _

/-- What a borrower does leaves the connections as they are. -/
theorem connections_set {guards : List γ} {i : ℕ} {client : γ} {op : γ → γ}
    (hop : ∀ client, tag (op client) = tag client) (hi : guards[i]? = some client) :
    (guards.set i (op client)).map tag = guards.map tag := by
  obtain ⟨hlt, rfl⟩ := List.getElem?_eq_some_iff.mp hi
  have hmap : i < (guards.map tag).length := by rwa [length_map]
  rw [map_set, hop, ← getElem_map tag (h := hmap), set_getElem_self]

/-- **A shared step moves connections about**, makes one, or lets the idle ones go. -/
theorem step_connections (ha : a.Keeps tag) (h : s.step api a = .ok s') :
    (s.connections tag ++ a.made tag).Perm (s.gone tag a ++ s'.connections tag) := by
  cases a with
  | call =>
    obtain rfl := Outcome.ok.inj h
    exact .of_eq (append_nil _)
  | start g =>
    obtain ⟨-, rfl⟩ := step_start h
    exact (Perm.of_eq (append_nil _)).trans (connections_start s g)
  | connected g client =>
    obtain ⟨-, rfl⟩ := step_connected h
    refine .of_eq ?_
    change map tag (s.inner.idle ++ s.guards) ++ map tag [client] =
      map tag (s.inner.idle ++ (s.guards ++ [client]))
    rw [← map_append, append_assoc]
  | connectError g e =>
    obtain ⟨-, rfl⟩ := step_connectError h
    exact .of_eq (append_nil _)
  | fail g =>
    obtain ⟨e, n, -, -, rfl⟩ := step_fail h
    exact .of_eq (append_nil _)
  | close =>
    obtain rfl := Outcome.ok.inj h
    exact .of_eq ((append_nil _).trans map_append)
  | borrow i op =>
    obtain ⟨client, hi, rfl⟩ := step_borrow h
    refine .of_eq ((append_nil _).trans ?_)
    change map tag (s.inner.idle ++ s.guards) = map tag (s.inner.idle ++ s.guards.set i (op client))
    rw [map_append, map_append, connections_set ha hi]

end PoolState

end Shared

/-! ### The blocking pool -/

namespace SyncPool

variable {γ ι : Type} (api : PoolClient γ) (tag : γ → ι)

/-- A borrower leaves its client the connection that it is. -/
def Keeps : SyncAction γ → Prop
  | .shared a => a.Keeps tag
  | _ => True

/-- The connection that a step makes. -/
def made : SyncAction γ → List ι
  | .shared a => a.made tag
  | _ => []

/-- The clients that a step takes out of the idle ones. -/
def taken (s : PoolState γ) : SyncAction γ → List γ
  | .shared a => s.taken a
  | _ => []

/-- The client that a step puts back: the one of a guard, unless it is dead or the pool is
closed. -/
def putBack (s : PoolState γ) : SyncAction γ → List γ
  | .dropGuard i =>
      match s.guards[i]? with
      | some client => if !s.inner.closed && !api.isClosed client then [client] else []
      | none => []
  | _ => []

/-- The connections that a step lets go: the client of a guard that is not put back, or the
idle ones. -/
def gone (s : PoolState γ) : SyncAction γ → List ι
  | .shared a => s.gone tag a
  | .dropGuard i =>
      match s.guards[i]? with
      | some client => if !s.inner.closed && !api.isClosed client then [] else [tag client]
      | none => []

variable {api tag} {config : PoolConfig} {s s' t : PoolState γ} {a : SyncAction γ}

/-- **A step takes from the front**, and puts back at the end. -/
theorem step_queue (h : step api s a = .ok s') :
    s.inner.idle ++ putBack api s a = taken s a ++ s'.inner.idle := by
  cases a with
  | shared a => exact (append_nil _).trans (PoolState.step_queue h)
  | dropGuard i =>
    obtain ⟨client, n, hi, -, rfl⟩ := dropGuard_eq_ok h
    simp only [putBack, hi, taken, nil_append]
    split
    · rfl
    · exact append_nil _

/-- **A step moves connections about**, makes one, or lets some go. -/
theorem step_connections (ha : Keeps tag a) (h : step api s a = .ok s') :
    (s.connections tag ++ made tag a).Perm (gone api tag s a ++ s'.connections tag) := by
  cases a with
  | shared a => exact PoolState.step_connections ha h
  | dropGuard i =>
    obtain ⟨client, n, hi, -, rfl⟩ := dropGuard_eq_ok h
    obtain ⟨hlt, rfl⟩ := List.getElem?_eq_some_iff.mp hi
    have hperm := (getElem_cons_eraseIdx_perm hlt).symm
    refine (Perm.of_eq (append_nil _)).trans ?_
    simp only [gone, hi, PoolState.connections]
    split
    -- the client joins the idle ones
    · rw [nil_append, append_assoc]
      exact ((hperm.append_left _).map tag)
    · refine ((hperm.append_left _).map tag).trans ?_
      rw [← map_singleton, ← map_append]
      exact (perm_middle).map tag

/-! ### Runs of the blocking pool -/

variable (api config tag) in
/-- The connections made up to the end of a run: those of the pool it starts with, and those
made in it. -/
def born (s : PoolState γ) (as : List (SyncAction γ)) : List ι :=
  s.inner.idle.map tag ++ (lts api config).log (fun _ => made tag) s as

variable (api config tag) in
/-- The connections let go in a run. -/
def lost (s : PoolState γ) (as : List (SyncAction γ)) : List ι :=
  (lts api config).log (gone api tag) s as

variable (api config) in
/-- No guard is dropped while its client is closed. -/
def NoDeadDrop (s : PoolState γ) (as : List (SyncAction γ)) : Prop :=
  ∀ bs i cs s' client, as = bs ++ .dropGuard i :: cs → (lts api config).run s bs = .ok s' →
    s'.guards[i]? = some client → api.isClosed client = false

/-- **What becomes of the connections of a new pool.** -/
theorem born_perm {as : List (SyncAction γ)} (hinit : (lts api config).init s)
    (hrun : (lts api config).run s as = .ok t) (has : ∀ a ∈ as, Keeps tag a) :
    (born api tag config s as).Perm (lost api tag config s as ++ t.connections tag) := by
  have hstep : ∀ s a s', Keeps tag a → (lts api config).step s a = .ok s' →
      (s.connections tag ++ made tag a).Perm (gone api tag s a ++ s'.connections tag) :=
    fun _ _ _ => step_connections
  have hperm := Lts.run_bag hstep hrun has
  rwa [PoolState.connections, hinit.2.2, append_nil] at hperm

/-- Only `close` closes the pool. -/
theorem step_closed_eq (ha : a ≠ .shared .close) (h : step api s a = .ok s') :
    s'.inner.closed = s.inner.closed := by
  cases a with
  | shared a => exact PoolState.step_closed_eq (fun hclose => ha (by rw [hclose])) h
  | dropGuard i =>
    obtain ⟨client, n, -, -, rfl⟩ := dropGuard_eq_ok h
    rfl

/-- **An open pool loses no live connection.** -/
theorem lost_eq_nil {as : List (SyncAction γ)} (hrun : (lts api config).run s as = .ok t)
    (hopen : s.inner.closed = false) (hclose : .shared .close ∉ as)
    (hdead : NoDeadDrop api config s as) : lost api tag config s as = [] := by
  refine eq_nil_iff_forall_not_mem.mpr fun x hx => ?_
  obtain ⟨bs, a, cs, s', rfl, hbs, hmem⟩ := Lts.exists_of_mem_log hrun hx
  have hopen' : s'.inner.closed = false :=
    Lts.run_invariant_of_forall (P := (· ≠ .shared .close)) (I := fun s => s.inner.closed = false)
      (fun s a s' ha hs h => (step_closed_eq ha h).trans hs) hopen hbs
      fun a ha heq => hclose (heq ▸ mem_append_left _ ha)
  cases a with
  | shared a =>
    cases a with
    | close => exact hclose (mem_append_right _ mem_cons_self)
    | _ => cases hmem
  | dropGuard i =>
    simp only [gone] at hmem
    split at hmem
    · rename_i client hi
      rw [hopen', hdead bs i cs s' client rfl hbs hi] at hmem
      cases hmem
    · cases hmem

end SyncPool

/-! ### The asynchronous pool -/

namespace AsyncPool

variable {γ ι : Type} (api : PoolClient γ) (tag : γ → ι)

/-- The connections that are idle, the ones in guards, and the ones held by return tasks. -/
def connections (s : AsyncPoolState γ) : List ι :=
  s.toPoolState.connections tag ++ s.tasks.map tag

/-- A borrower leaves its client the connection that it is. -/
def Keeps : AsyncAction γ → Prop
  | .shared a => a.Keeps tag
  | _ => True

/-- The connection that a step makes. -/
def made : AsyncAction γ → List ι
  | .shared a => a.made tag
  | _ => []

/-- The clients that a step takes out of the idle ones. -/
def taken (s : AsyncPoolState γ) : AsyncAction γ → List γ
  | .shared a => s.toPoolState.taken a
  | _ => []

/-- The client that a step puts back: the one of a return task, unless the pool is closed. -/
def putBack (s : AsyncPoolState γ) : AsyncAction γ → List γ
  | .returnTask t =>
      match s.tasks[t]? with
      | some client => if !s.inner.closed then [client] else []
      | none => []
  | _ => []

/-- The connections that a step lets go: a dead client of a guard, a client that a return task
does not put back, or the idle ones. -/
def gone (s : AsyncPoolState γ) : AsyncAction γ → List ι
  | .shared a => s.toPoolState.gone tag a
  | .dropGuard i =>
      match s.guards[i]? with
      | some client => if api.isClosed client then [tag client] else []
      | none => []
  | .returnTask t =>
      match s.tasks[t]? with
      | some client => if !s.inner.closed then [] else [tag client]
      | none => []
  | .cancel _ => []

variable {api tag} {config : PoolConfig} {s s' t : AsyncPoolState γ} {a : AsyncAction γ}

/-- **A step takes from the front**, and puts back at the end. -/
theorem step_queue (h : step api s a = .ok s') :
    s.inner.idle ++ putBack s a = taken s a ++ s'.inner.idle := by
  cases a with
  | shared a =>
    obtain ⟨p, hp, rfl⟩ := step_shared h
    exact (append_nil _).trans (PoolState.step_queue hp)
  | dropGuard i =>
    rcases step_dropGuard h with ⟨client, -, ⟨-, rfl⟩ | ⟨-, rfl⟩⟩ <;> exact append_nil _
  | returnTask t =>
    obtain ⟨client, n, ht, -, rfl⟩ := step_returnTask h
    simp only [putBack, ht, taken, nil_append]
    split
    · rfl
    · exact append_nil _
  | cancel g =>
    obtain ⟨p, -, -, rfl⟩ := step_cancel h
    exact append_nil _

/-- **A step moves connections about**, makes one, or lets some go. -/
theorem step_connections (ha : Keeps tag a) (h : step api s a = .ok s') :
    (connections tag s ++ made tag a).Perm (gone api tag s a ++ connections tag s') := by
  cases a with
  | shared a =>
    obtain ⟨p, hp, rfl⟩ := step_shared h
    have hperm := PoolState.step_connections ha hp
    calc connections tag s ++ a.made tag
        ~ s.toPoolState.connections tag ++ a.made tag ++ s.tasks.map tag := by
          rw [connections, append_assoc, append_assoc]
          exact perm_append_comm.append_left _
      _ ~ s.toPoolState.gone tag a ++ p.connections tag ++ s.tasks.map tag :=
          hperm.append_right _
      _ = s.toPoolState.gone tag a ++ (p.connections tag ++ s.tasks.map tag) :=
          append_assoc _ _ _
  | dropGuard i =>
    obtain ⟨client, hi, hcases⟩ := step_dropGuard h
    obtain ⟨hlt, rfl⟩ := List.getElem?_eq_some_iff.mp hi
    have hperm := (getElem_cons_eraseIdx_perm hlt).symm
    refine (Perm.of_eq (append_nil _)).trans ?_
    simp only [gone, hi, connections, PoolState.connections, ← map_append, append_assoc]
    rcases hcases with ⟨hclosed, rfl⟩ | ⟨hopen, rfl⟩
    · rw [if_pos hclosed, ← map_singleton, ← map_append]
      refine Perm.map tag ?_
      exact ((hperm.append_right _).append_left _).trans perm_middle
    -- the client is held by the new task
    · rw [if_neg (by rw [hopen]; exact Bool.false_ne_true), nil_append]
      refine Perm.map tag (Perm.append_left _ ((hperm.append_right _).trans ?_))
      rw [← append_assoc]
      exact (perm_append_singleton _ _).symm
  | returnTask i =>
    obtain ⟨client, n, hi, -, rfl⟩ := step_returnTask h
    obtain ⟨hlt, rfl⟩ := List.getElem?_eq_some_iff.mp hi
    have hperm := (getElem_cons_eraseIdx_perm hlt).symm
    refine (Perm.of_eq (append_nil _)).trans ?_
    simp only [gone, hi, connections, PoolState.connections, ← map_append, append_assoc]
    split
    -- the client joins the idle ones
    · rw [nil_append, append_assoc]
      refine Perm.map tag (Perm.append_left _ ?_)
      exact (hperm.append_left _).trans perm_middle
    · rw [← map_singleton, ← map_append]
      refine Perm.map tag (((hperm.append_left _).append_left _).trans ?_)
      exact (perm_middle.append_left _).trans perm_middle
  | cancel g =>
    obtain ⟨p, -, -, rfl⟩ := step_cancel h
    exact .of_eq (append_nil _)

/-! ### Runs of the asynchronous pool -/

variable (api config tag) in
/-- The connections made up to the end of a run: those of the pool it starts with, and those
made in it. -/
def born (s : AsyncPoolState γ) (as : List (AsyncAction γ)) : List ι :=
  s.inner.idle.map tag ++ (lts api config).log (fun _ => made tag) s as

variable (api config tag) in
/-- The connections let go in a run. -/
def lost (s : AsyncPoolState γ) (as : List (AsyncAction γ)) : List ι :=
  (lts api config).log (gone api tag) s as

/-- **What becomes of the connections of a new pool.** -/
theorem born_perm {as : List (AsyncAction γ)} (hinit : (lts api config).init s)
    (hrun : (lts api config).run s as = .ok t) (has : ∀ a ∈ as, Keeps tag a) :
    (born api tag config s as).Perm (lost api tag config s as ++ connections tag t) := by
  have hstep : ∀ s a s', Keeps tag a → (lts api config).step s a = .ok s' →
      (connections tag s ++ made tag a).Perm (gone api tag s a ++ connections tag s') :=
    fun _ _ _ => step_connections
  have hperm := Lts.run_bag hstep hrun has
  rwa [connections, PoolState.connections, hinit.1.2.2, hinit.2, append_nil, map_nil,
    append_nil] at hperm

/-- Only `close` closes the pool. -/
theorem step_closed_eq (ha : a ≠ .shared .close) (h : step api s a = .ok s') :
    s'.inner.closed = s.inner.closed := by
  cases a with
  | shared a =>
    obtain ⟨p, hp, rfl⟩ := step_shared h
    exact PoolState.step_closed_eq (fun hclose => ha (by rw [hclose])) hp
  | dropGuard i =>
    rcases step_dropGuard h with ⟨client, -, ⟨-, rfl⟩ | ⟨-, rfl⟩⟩ <;> rfl
  | returnTask t =>
    obtain ⟨client, n, -, -, rfl⟩ := step_returnTask h
    rfl
  | cancel g =>
    obtain ⟨p, -, -, rfl⟩ := step_cancel h
    rfl

/-- **An open pool loses no live connection.** -/
theorem lost_eq_nil {as : List (AsyncAction γ)} (hrun : (lts api config).run s as = .ok t)
    (hopen : s.inner.closed = false) (hclose : .shared .close ∉ as)
    (hdead : NoDeadDrop api config s as) : lost api tag config s as = [] := by
  refine eq_nil_iff_forall_not_mem.mpr fun x hx => ?_
  obtain ⟨bs, a, cs, s', rfl, hbs, hmem⟩ := Lts.exists_of_mem_log hrun hx
  have hopen' : s'.inner.closed = false :=
    Lts.run_invariant_of_forall (P := (· ≠ .shared .close)) (I := fun s => s.inner.closed = false)
      (fun s a s' ha hs h => (step_closed_eq ha h).trans hs) hopen hbs
      fun a ha heq => hclose (heq ▸ mem_append_left _ ha)
  cases a with
  | shared a =>
    cases a with
    | close => exact hclose (mem_append_right _ mem_cons_self)
    | _ => cases hmem
  | dropGuard i =>
    simp only [gone] at hmem
    split at hmem
    · rename_i client hi
      rw [hdead bs i cs s' client rfl hbs hi] at hmem
      cases hmem
    · cases hmem
  | returnTask i =>
    simp only [gone, hopen'] at hmem
    split at hmem <;> cases hmem
  | cancel g => cases hmem

end AsyncPool

/-! ### Both -/

section Both

variable {γ ι : Type} {api : PoolClient γ} {config : PoolConfig}

/-- Of the connections that have been made, each is lost or there. If no two of them are the
same, none is in two places, and none that is lost is there. -/
structure Owned (born lost there : List ι) : Prop where
  perm : born.Perm (lost ++ there)
  nodup : born.Nodup → there.Nodup
  disjoint : born.Nodup → lost.Disjoint there

theorem Owned.of_perm {born lost there : List ι} (h : born.Perm (lost ++ there)) :
    Owned born lost there := by
  refine ⟨h, fun hborn => ?_, fun hborn => ?_⟩
  · exact (nodup_append'.mp (h.nodup_iff.mp hborn)).2.1
  · exact (nodup_append'.mp (h.nodup_iff.mp hborn)).2.2

/-- **A connection has one owner.** In every run of either pool, in any interleaving, whatever
the borrowers do: each connection that was ever made is idle, or in a guard, or held by a return
task, or it has been let go. If the connections that were made are different ones, none is in
two of these places, so it is never lent twice at a time; and none that has been let go comes
back. As long as the pool is not closed and no guard is dropped while its client is closed, none
is let go. -/
theorem pool_owned (tag : γ → ι) :
    (∀ s as t, (SyncPool.lts api config).init s → (SyncPool.lts api config).run s as = .ok t →
      (∀ a ∈ as, SyncPool.Keeps tag a) →
      Owned (SyncPool.born api tag config s as) (SyncPool.lost api tag config s as)
        (t.connections tag) ∧
      (.shared .close ∉ as → SyncPool.NoDeadDrop api config s as →
        SyncPool.lost api tag config s as = [])) ∧
    ∀ s as t, (AsyncPool.lts api config).init s → (AsyncPool.lts api config).run s as = .ok t →
      (∀ a ∈ as, AsyncPool.Keeps tag a) →
      Owned (AsyncPool.born api tag config s as) (AsyncPool.lost api tag config s as)
        (AsyncPool.connections tag t) ∧
      (.shared .close ∉ as → AsyncPool.NoDeadDrop api config s as →
        AsyncPool.lost api tag config s as = []) := by
  refine ⟨fun s as t hinit hrun has => ⟨.of_perm (SyncPool.born_perm hinit hrun has), ?_⟩,
    fun s as t hinit hrun has => ⟨.of_perm (AsyncPool.born_perm hinit hrun has), ?_⟩⟩
  · exact SyncPool.lost_eq_nil hrun hinit.spec.2.1
  · exact AsyncPool.lost_eq_nil hrun hinit.1.spec.2.1

/-- Clients that are told apart by their number. -/
def numbered : PoolClient (ℕ × Client Unit) := ⟨fun client => client.2.isClosed, .client⟩

/-- A pool of two connections, which are made when they are needed. -/
def twoOnDemand : PoolConfig := ⟨"cubrid://localhost/demodb", 2, 0⟩

/-- It is new. -/
def emptyPool : PoolState (ℕ × Client Unit) := ⟨⟨twoOnDemand, [], 0, false⟩, [], []⟩

theorem emptyPool_initial : PoolState.Initial numbered twoOnDemand emptyPool :=
  ⟨⟨fun i => .ok (i, .connected ()), rfl⟩, rfl, rfl⟩

/-- Two calls get the connections one and two. -/
def twoGets : List (PoolAction (ℕ × Client Unit)) :=
  [.call, .start 0, .connected 0 (1, .connected ()), .call, .start 1,
    .connected 1 (2, .connected ())]

/-- In the blocking pool, the borrower of the second one closes it before it drops its guard. -/
def deadDrop : List (SyncAction (ℕ × Client Unit)) :=
  twoGets.map .shared ++
    [.shared (.borrow 1 fun client => (client.1, client.2.close)), .dropGuard 1]

theorem keeps_deadDrop : ∀ a ∈ deadDrop, SyncPool.Keeps Prod.fst a := by
  simp [deadDrop, twoGets, SyncPool.Keeps, PoolAction.Keeps]

/-- In the asynchronous pool, it drops its guard, and the return task has not run. -/
def liveDrop : List (AsyncAction (ℕ × Client Unit)) := twoGets.map .shared ++ [.dropGuard 1]

theorem keeps_liveDrop : ∀ a ∈ liveDrop, AsyncPool.Keeps Prod.fst a := by
  simp [liveDrop, twoGets, AsyncPool.Keeps, PoolAction.Keeps]

/-- The first connection is there, and the second one is lost; in the other pool both are
there. -/
theorem pool_owned_twoGets : Owned [1, 2] [2] [1] ∧ Owned [1, 2] [] [1, 2] := by
  have hown := @pool_owned _ _ numbered twoOnDemand Prod.fst
  have hdead : (SyncPool.lts numbered twoOnDemand).run emptyPool deadDrop =
      .ok ⟨⟨twoOnDemand, [], 1, false⟩, [.returned (.ok ()), .returned (.ok ())],
        [(1, .connected ())]⟩ := rfl
  have hlive : (AsyncPool.lts numbered twoOnDemand).run ⟨emptyPool, []⟩ liveDrop =
      .ok ⟨⟨⟨twoOnDemand, [], 2, false⟩, [.returned (.ok ()), .returned (.ok ())],
        [(1, .connected ())]⟩, [(2, .connected ())]⟩ := rfl
  exact ⟨(hown.1 _ _ _ emptyPool_initial hdead keeps_deadDrop).1,
    (hown.2 _ _ _ ⟨emptyPool_initial, rfl⟩ hlive keeps_liveDrop).1⟩

/-- A call that is to make a connection has found no idle one. -/
theorem PoolState.idle_eq_nil_of_connecting {s : PoolState γ} {g : ℕ}
    (hwaiting : s.gets[g]? = some .waiting) (h : (s.start g).gets[g]? = some .connecting) :
    s.inner.idle = [] := by
  have hlt := (List.getElem?_eq_some_iff.mp hwaiting).1
  rcases s.start_cases g with ⟨-, hs⟩ | ⟨_, _, -, -, hs⟩ | ⟨-, hidle, -⟩ | ⟨-, hidle, -⟩
  · rw [hs, getElem?_set_self hlt] at h
    cases h
  · rw [hs, getElem?_set_self hlt] at h
    cases h
  · exact hidle
  · exact hidle

/-- **The idle connections are a queue.** In every run of either pool, in any interleaving: the
connections that calls of `get` and `close` have taken out, followed by the ones that are still
idle, are the ones that were idle at first, followed by the ones that have been put back, in
this order. And a call of `get` makes a connection only when every connection that has been put
back is taken out. -/
theorem pool_fifo :
    (∀ s as t, (SyncPool.lts api config).run s as = .ok t →
      s.inner.idle ++ (SyncPool.lts api config).log (SyncPool.putBack api) s as =
        (SyncPool.lts api config).log SyncPool.taken s as ++ t.inner.idle ∧
      ∀ g t', SyncPool.step api t (.shared (.start g)) = .ok t' →
        t'.gets[g]? = some .connecting →
        s.inner.idle ++ (SyncPool.lts api config).log (SyncPool.putBack api) s as =
          (SyncPool.lts api config).log SyncPool.taken s as) ∧
    ∀ s as t, (AsyncPool.lts api config).run s as = .ok t →
      s.inner.idle ++ (AsyncPool.lts api config).log AsyncPool.putBack s as =
        (AsyncPool.lts api config).log AsyncPool.taken s as ++ t.inner.idle ∧
      ∀ g t', AsyncPool.step api t (.shared (.start g)) = .ok t' →
        t'.gets[g]? = some .connecting →
        s.inner.idle ++ (AsyncPool.lts api config).log AsyncPool.putBack s as =
          (AsyncPool.lts api config).log AsyncPool.taken s as := by
  refine ⟨fun s as t hrun => ?_, fun s as t hrun => ?_⟩
  · have hqueue := Lts.run_queue (P := fun _ => True) (m := fun s => s.inner.idle)
      (fun _ _ _ _ h => SyncPool.step_queue h) hrun fun _ _ => trivial
    refine ⟨hqueue, fun g t' hstep hconnecting => ?_⟩
    have hshared : t.step api (.start g) = .ok t' := hstep
    obtain ⟨hwaiting, rfl⟩ := PoolState.step_start hshared
    rw [hqueue, PoolState.idle_eq_nil_of_connecting hwaiting hconnecting, append_nil]
  · have hqueue := Lts.run_queue (P := fun _ => True) (m := fun s => s.inner.idle)
      (fun _ _ _ _ h => AsyncPool.step_queue h) hrun fun _ _ => trivial
    refine ⟨hqueue, fun g t' hstep hconnecting => ?_⟩
    obtain ⟨p, hp, rfl⟩ := AsyncPool.step_shared hstep
    obtain ⟨hwaiting, rfl⟩ := PoolState.step_start hp
    rw [hqueue, PoolState.idle_eq_nil_of_connecting hwaiting hconnecting, append_nil]

/-- Both connections are put back, the second one first, and `get` is called once more. -/
def twoReturns : List (SyncAction (ℕ × Client Unit)) :=
  twoGets.map .shared ++ [.dropGuard 1, .dropGuard 0, .shared .call, .shared (.start 2)]

/-- It takes the second one, and the first one is left. -/
theorem pool_fifo_twoReturns :
    (SyncPool.lts numbered twoOnDemand).log (SyncPool.putBack numbered) emptyPool twoReturns =
      (SyncPool.lts numbered twoOnDemand).log SyncPool.taken emptyPool twoReturns ++
        [(1, .connected ())] := by
  have hrun : (SyncPool.lts numbered twoOnDemand).run emptyPool twoReturns =
      .ok ⟨⟨twoOnDemand, [(1, .connected ())], 1, false⟩,
        [.returned (.ok ()), .returned (.ok ()), .returned (.ok ())], [(2, .connected ())]⟩ := rfl
  exact ((@pool_fifo _ numbered twoOnDemand).1 _ _ _ hrun).1

end Both

end CubridDriver
