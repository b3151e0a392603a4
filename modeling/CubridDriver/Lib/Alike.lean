import CubridDriver.Lib.Checked

/-!
# Programs that behave alike

A relational logic for checked programs. `Checked.Alike R p q` says of two programs that,
started in states related by `R`, they end in the same way: they return the same value and
leave related states, or they return the same error, or both panic. There is one rule for
each way to compose programs.

With a relation that forgets a part of the state, `Alike R p p` says that the program does
not look at that part.
-/

namespace Checked

variable {σ ε α β γ : Type}

/-- The same value in related states, the same error, or a panic on both sides. -/
inductive EndsAlike (R : σ → σ → Prop) : Outcome ε (α × σ) → Outcome ε (α × σ) → Prop
  /-- Both return a value. -/
  | ok {a : α} {s t : σ} (h : R s t) : EndsAlike R (.ok (a, s)) (.ok (a, t))
  /-- Both return an error. -/
  | err {e : ε} : EndsAlike R (.err e) (.err e)
  /-- Both panic. -/
  | panic : EndsAlike R .panic .panic

/-- From related states the programs end alike. -/
def Alike (R : σ → σ → Prop) (p q : Checked σ ε α) : Prop :=
  ∀ s t, R s t → EndsAlike R (p s) (q t)

section Rules

variable {R : σ → σ → Prop} {p q : Checked σ ε α}

theorem alike_pure (a : α) : Alike R (pure a : Checked σ ε α) (pure a) := fun _ _ h => .ok h

theorem alike_throw (e : ε) : Alike R (throw e : Checked σ ε α) (throw e) := fun _ _ _ => .err

theorem alike_lift (x : Outcome ε α) : Alike R (lift x) (lift x) := by
  intro s t h
  rw [lift, lift]
  cases x with
  | ok a => exact .ok h
  | err e => exact .err
  | panic => exact .panic

/-- **The rule of composition.** -/
theorem alike_bind {f g : α → Checked σ ε β} (hp : Alike R p q)
    (hf : ∀ a, Alike R (f a) (g a)) : Alike R (p >>= f) (q >>= g) := by
  intro s t h
  have hends := hp s t h
  rw [bind_apply, bind_apply]
  generalize p s = x at hends ⊢
  generalize q t = y at hends ⊢
  cases hends with
  | ok hrel => exact hf _ _ _ hrel
  | err => exact .err
  | panic => exact .panic

theorem alike_ite {c : Prop} [Decidable c] {p' q' : Checked σ ε α} (h : Alike R p q)
    (h' : Alike R p' q') : Alike R (if c then p else p') (if c then q else q') := by
  split
  · exact h
  · exact h'

/-- **The rule of the counting loop.** -/
theorem alike_repeatM (h : Alike R p q) (n : ℕ) : Alike R (repeatM p n) (repeatM q n) := by
  induction n with
  | zero => exact alike_pure []
  | succ n ih => exact alike_bind h fun a => alike_bind ih fun as => alike_pure _

/-- **The rule of the loop over a list.** -/
theorem alike_forEach {p q : α → Checked σ ε β} (h : ∀ a, Alike R (p a) (q a)) (as : List α) :
    Alike R (forEach p as) (forEach q as) := by
  induction as with
  | nil => exact alike_pure []
  | cons a as ih => exact alike_bind (h a) fun b => alike_bind ih fun bs => alike_pure _

/-- When the first program returns, so does the second one. -/
theorem EndsAlike.ok_left {x y : Outcome ε (α × σ)} {a : α} {s : σ} (h : EndsAlike R x y)
    (hx : x = .ok (a, s)) : ∃ t, y = .ok (a, t) ∧ R s t := by
  cases h with
  | ok hrel =>
    obtain ⟨rfl, rfl⟩ := Prod.mk.inj (Outcome.ok.inj hx)
    exact ⟨_, rfl, hrel⟩
  | err => cases hx
  | panic => cases hx

end Rules

end Checked
