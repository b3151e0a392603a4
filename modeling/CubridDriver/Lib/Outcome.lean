import Mathlib.Algebra.Group.Int.Defs
import Mathlib.Algebra.Group.Nat.Defs
import Mathlib.Tactic.Common

/-!
# Checked computations

A computation of a checked program ends in one of three ways: it returns a value,
it returns an error, or it panics. An error is a result like any other; a panic is
the end of the program, and what a program is proved never to do.

`Outcome ε` is the monad of such computations. Inversion lemmas for its `bind`,
such as `Outcome.bind_eq_ok` and `Outcome.bind_eq_panic`, take a computation apart
without unfolding it.
-/

/-- How a checked computation ends. -/
inductive Outcome (ε : Type*) (α : Type*)
  /-- It returns a value. -/
  | ok (a : α)
  /-- It returns an error. -/
  | err (e : ε)
  /-- It panics. -/
  | panic
  deriving DecidableEq, Repr

namespace Outcome

universe u v

variable {ε : Type u} {α β : Type v}

/-- Go on with the value of a computation that returns one. -/
def bind (x : Outcome ε α) (f : α → Outcome ε β) : Outcome ε β :=
  match x with
  | ok a => f a
  | err e => err e
  | panic => panic

instance : Monad (Outcome ε) where
  pure := ok
  bind := Outcome.bind

/-- Change the type of the error. -/
def mapErr {ε' : Type*} (g : ε → ε') : Outcome ε α → Outcome ε' α
  | ok a => ok a
  | err e => err (g e)
  | panic => panic

@[simp] theorem pure_eq_ok (a : α) : (pure a : Outcome ε α) = ok a := rfl

@[simp] theorem ok_bind (a : α) (f : α → Outcome ε β) : (ok a >>= f) = f a := rfl

@[simp] theorem err_bind (e : ε) (f : α → Outcome ε β) : (err e >>= f) = err e := rfl

@[simp] theorem panic_bind (f : α → Outcome ε β) : ((panic : Outcome ε α) >>= f) = panic := rfl

instance : LawfulMonad (Outcome ε) := LawfulMonad.mk' _
  (fun x => by cases x <;> rfl)
  (fun _ _ => rfl)
  (fun x _ _ => by cases x <;> rfl)

/-- The value that is returned, if one is. -/
def toOption : Outcome ε α → Option α
  | ok a => some a
  | _ => none

theorem toOption_eq_some {x : Outcome ε α} {a : α} : x.toOption = some a ↔ x = ok a := by
  cases x <;> simp [toOption]

/-- Whether a value is returned can be told. -/
instance decidableReturns (x : Outcome ε α) : Decidable (∃ a, x = ok a) :=
  match x with
  | ok a => isTrue ⟨a, rfl⟩
  | err _ => isFalse fun ⟨_, h⟩ => by cases h
  | panic => isFalse fun ⟨_, h⟩ => by cases h

/-! ### Inversion -/

/-- **A sequence returns** when both of its parts do. -/
theorem bind_eq_ok {x : Outcome ε α} {f : α → Outcome ε β} {b : β} :
    (x >>= f) = ok b ↔ ∃ a, x = ok a ∧ f a = ok b := by
  cases x <;> simp

/-- **A sequence fails** when one of its parts does. -/
theorem bind_eq_err {x : Outcome ε α} {f : α → Outcome ε β} {e : ε} :
    (x >>= f) = err e ↔ x = err e ∨ ∃ a, x = ok a ∧ f a = err e := by
  cases x <;> simp

/-- **A sequence panics** when one of its parts does. -/
theorem bind_eq_panic {x : Outcome ε α} {f : α → Outcome ε β} :
    (x >>= f) = panic ↔ x = panic ∨ ∃ a, x = ok a ∧ f a = panic := by
  cases x <;> simp

theorem mapErr_eq_ok {ε' : Type*} {g : ε → ε'} {x : Outcome ε α} {a : α} :
    x.mapErr g = ok a ↔ x = ok a := by
  cases x <;> simp [mapErr]

theorem mapErr_eq_err {ε' : Type*} {g : ε → ε'} {x : Outcome ε α} {e : ε'} :
    x.mapErr g = err e ↔ ∃ e', x = err e' ∧ g e' = e := by
  cases x <;> simp [mapErr]

theorem mapErr_eq_panic {ε' : Type*} {g : ε → ε'} {x : Outcome ε α} :
    x.mapErr g = panic ↔ x = panic := by
  cases x <;> simp [mapErr]

/-! ### Checked arithmetic -/

/-- Subtraction of unsigned numbers, which panics when it underflows. -/
def checkedSub (a b : ℕ) : Outcome ε ℕ := if b ≤ a then ok (a - b) else panic

@[simp] theorem checkedSub_eq_ok {a b c : ℕ} :
    (checkedSub a b : Outcome ε ℕ) = ok c ↔ a = c + b := by
  rw [checkedSub]
  split
  · rw [ok.injEq]
    omega
  · simp only [reduceCtorEq, false_iff]
    omega

@[simp] theorem checkedSub_eq_panic {a b : ℕ} :
    (checkedSub a b : Outcome ε ℕ) = panic ↔ a < b := by
  rw [checkedSub]
  split <;> simp <;> omega

end Outcome
