import Mathlib.Data.List.Basic

/-!
# Transducers

A machine that reads a text symbol by symbol and writes another one: with each symbol it writes
a word, which may be empty, and at the end of the text it writes a last one. A lexer is such a
machine, which writes tokens.

A lexer often has read a token, but does not know yet whether the token goes on. Then it *waits*:
`Transducer.Waits` says that it goes on as if it had written the token and begun anew, unless it
is shown a symbol that joins with the token. A text *means* what is written about it, now or
after such a wait (`Transducer.Means`), and it means the same wherever it stands, provided that
no joining symbol follows.
-/

/-- A transducer with states `σ`, which reads symbols of `α` and writes symbols of `β`. -/
structure Transducer (σ α β : Type*) where
  /-- What is written with a symbol, and the state behind it. -/
  step : σ → α → List β × σ
  /-- What is written at the end of the text. -/
  finish : σ → List β

namespace Transducer

variable {σ α β : Type*} (T : Transducer σ α β)

/-- Read a text to its end. -/
def run : σ → List α → List β
  | s, [] => T.finish s
  | s, a :: as => (T.step s a).1 ++ run (T.step s a).2 as

/-- Reading the text `as` writes `out` and leads from `s` to `t`, whatever follows. -/
def Reads (s : σ) (as : List α) (out : List β) (t : σ) : Prop :=
  ∀ rest, T.run s (as ++ rest) = out ++ T.run t rest

/-- In the state `s` the machine waits with `out`: it goes on as from `t` behind `out`, unless
a joining symbol follows. -/
structure Waits (Joins : α → Prop) (s : σ) (out : List β) (t : σ) : Prop where
  step : ∀ {a}, ¬Joins a → T.step s a = (out ++ (T.step t a).1, (T.step t a).2)
  finish : T.finish s = out ++ T.finish t

/-- From the state `t`, the text `as` means `out`: a part of it is written when the text has been
read, and the machine waits with the rest. -/
def Means (Joins : α → Prop) (t : σ) (as : List α) (out : List β) : Prop :=
  ∃ written s waiting, T.Reads t as written s ∧ T.Waits Joins s waiting t ∧
    out = written ++ waiting

variable {T} {s t u : σ} {a : α} {as bs : List α} {out out' : List β} {Joins : α → Prop}

/-! ### Reading -/

theorem reads_nil : T.Reads s [] [] s := fun _ => rfl

theorem reads_symbol (h : T.step s a = (out, t)) : T.Reads s [a] out t := by
  intro rest
  rw [List.singleton_append, run, h]

/-- **One text behind another.** -/
theorem Reads.append (has : T.Reads s as out t) (hbs : T.Reads t bs out' u) :
    T.Reads s (as ++ bs) (out ++ out') u := by
  intro rest
  rw [List.append_assoc, has, hbs, List.append_assoc]

/-- A symbol with which nothing is written. -/
theorem Reads.cons (h : T.step s a = ([], t)) (has : T.Reads t as out u) :
    T.Reads s (a :: as) out u :=
  (reads_symbol h).append has

/-! ### Waiting -/

theorem waits_self : T.Waits Joins s [] s := ⟨fun _ => rfl, rfl⟩

/-- **A machine that waits** goes on as if it did not, when no joining symbol follows. -/
theorem Waits.run (h : T.Waits Joins s out t) (has : ∀ a ∈ as.head?, ¬Joins a) :
    T.run s as = out ++ T.run t as := by
  cases as with
  | nil => exact h.finish
  | cons a as => rw [Transducer.run, Transducer.run, h.step (has a rfl), List.append_assoc]

/-! ### Meaning -/

/-- **A text means the same wherever it stands**, when no joining symbol follows. -/
theorem Means.run (h : T.Means Joins t as out) (hbs : ∀ b ∈ bs.head?, ¬Joins b) :
    T.run t (as ++ bs) = out ++ T.run t bs := by
  obtain ⟨written, s, waiting, hreads, hwaits, rfl⟩ := h
  rw [hreads, hwaits.run hbs, List.append_assoc]

end Transducer
