import CubridDriver.Lib.Prog

/-!
# Two programs side by side

A program and another one that does the same over states of another kind, as a program over
bytes and one over what the bytes stand for. `Prog.Relates R p q S E` is a relational
Hoare triple: from states that are related by `R` both programs have the same outcome, or
neither ends. The states they leave are related by `S` when a value is returned, which is
told the value, and by `E` otherwise.

The rules follow the constructs of a program. `Prog.each_relates` is the rule for a history:
when the programs of each step are related, whole histories have the same outcomes.
-/

namespace Prog

variable {σ τ ε α β ι : Type}

/-- How two programs end alike. -/
inductive EndsAlike (S : α → σ → τ → Prop) (E : σ → τ → Prop) :
    Option (Outcome ε α × σ) → Option (Outcome ε α × τ) → Prop
  /-- Both return the value. -/
  | ok {a : α} {s : σ} {t : τ} (h : S a s t) :
      EndsAlike S E (some (.ok a, s)) (some (.ok a, t))
  /-- Both return the error. -/
  | err {e : ε} {s : σ} {t : τ} (h : E s t) :
      EndsAlike S E (some (.err e, s)) (some (.err e, t))
  /-- Both panic. -/
  | panic {s : σ} {t : τ} (h : E s t) : EndsAlike S E (some (.panic, s)) (some (.panic, t))
  /-- Neither ends. -/
  | never : EndsAlike S E none none

/-- **Relational triples**: from related states the programs end alike. -/
def Relates (R : σ → τ → Prop) (p : Prog σ ε α) (q : Prog τ ε α) (S : α → σ → τ → Prop)
    (E : σ → τ → Prop) : Prop := ∀ s t, R s t → EndsAlike S E (p s) (q t)

section Rules

variable {R E : σ → τ → Prop} {S : α → σ → τ → Prop} {p : Prog σ ε α} {q : Prog τ ε α}

theorem relates_pure {a : α} (h : ∀ s t, R s t → S a s t) :
    Relates R (pure a : Prog σ ε α) (pure a) S E := fun s t hst => .ok (h s t hst)

theorem relates_throw {e : ε} (h : ∀ s t, R s t → E s t) :
    Relates R (throw e : Prog σ ε α) (throw e) S E := fun s t hst => .err (h s t hst)

theorem relates_lift (x : Outcome ε α) (hok : ∀ a, x = .ok a → ∀ s t, R s t → S a s t)
    (hE : ∀ s t, R s t → E s t) : Relates R (lift x : Prog σ ε α) (lift x) S E := by
  intro s t hst
  rw [lift, lift]
  cases x with
  | ok a => exact .ok (hok a rfl s t hst)
  | err e => exact .err (hE s t hst)
  | panic => exact .panic (hE s t hst)

/-- **The rule of composition.** -/
theorem relates_bind {f : α → Prog σ ε β} {g : α → Prog τ ε β} {T : β → σ → τ → Prop}
    (hp : Relates R p q S E) (hf : ∀ a, Relates (S a) (f a) (g a) T E) :
    Relates R (p >>= f) (q >>= g) T E := by
  intro s t hst
  have hends := hp s t hst
  change EndsAlike T E (andThen p f s) (andThen q g t)
  rw [andThen, andThen]
  generalize p s = x at hends ⊢
  generalize q t = y at hends ⊢
  cases hends with
  | ok h => exact hf _ _ _ h
  | err h => exact .err h
  | panic h => exact .panic h
  | never => exact .never

/-- A last step that changes the value. -/
theorem relates_map {g : α → β} (hp : Relates R p q (fun _ => E) E) :
    Relates R (g <$> p) (g <$> q) (fun _ => E) E :=
  relates_bind hp fun _ => relates_pure fun _ _ h => h

/-- What is known of the states when they are read is known of what has been read. -/
theorem relates_get_bind {f : σ → Prog σ ε β} {g : τ → Prog τ ε β} {T : β → σ → τ → Prop}
    (h : ∀ s t, R s t → Relates R (f s) (g t) T E) :
    Relates R (get >>= f) (get >>= g) T E := by
  intro s t hst
  rw [bind_ok (a := s) (t := s) rfl, bind_ok (a := t) (t := t) rfl]
  exact h s t hst s t hst

theorem relates_modify {f : σ → σ} {g : τ → τ} {T : σ → τ → Prop}
    (h : ∀ s t, R s t → T (f s) (g t)) :
    Relates R (modify f : Prog σ ε Unit) (modify g) (fun _ => T) E :=
  fun s t hst => .ok (h s t hst)

theorem relates_ite {c : Prop} [Decidable c] {p' : Prog σ ε α} {q' : Prog τ ε α}
    (h : c → Relates R p q S E) (h' : ¬c → Relates R p' q' S E) :
    Relates R (if c then p else p') (if c then q else q') S E := by
  split
  · exact h ‹c›
  · exact h' ‹¬c›

/-- Errors that are ignored on both sides, of programs that do not panic. -/
theorem relates_ignoreErr {F : σ → τ → Prop} (h : Relates R p q (fun _ => E) E)
    (hpanic : ∀ t u, q t ≠ some (.panic, u)) :
    Relates R (ignoreErr p) (ignoreErr q) (fun _ => E) F := by
  intro s t hst
  have hends := h s t hst
  have hne := hpanic t
  rw [ignoreErr, ignoreErr]
  generalize p s = x at hends ⊢
  generalize q t = y at hends hne ⊢
  cases hends with
  | ok h => exact .ok h
  | err h => exact .ok h
  | panic h => exact absurd rfl (hne _)
  | never => exact .never

theorem relates_outOfFuel : Relates R (outOfFuel : Prog σ ε α) (outOfFuel : Prog τ ε α) S E :=
  fun _ _ _ => .never

/-- **The rule of consequence.** -/
theorem relates_mono {Q F : σ → τ → Prop} {U : α → σ → τ → Prop} (h : Relates Q p q U F)
    (hR : ∀ s t, R s t → Q s t) (hS : ∀ a s t, U a s t → S a s t) (hE : ∀ s t, F s t → E s t) :
    Relates R p q S E := by
  intro s t hst
  have hends := h s t (hR s t hst)
  generalize p s = x at hends ⊢
  generalize q t = y at hends ⊢
  cases hends with
  | ok h => exact .ok (hS _ _ _ h)
  | err h => exact .err (hE _ _ h)
  | panic h => exact .panic (hE _ _ h)
  | never => exact .never

/-- The programs change places. -/
theorem Relates.symm (h : Relates R p q S E) :
    Relates (fun t s => R s t) q p (fun a t s => S a s t) (fun t s => E s t) := by
  intro t s hst
  have hends := h s t hst
  generalize p s = x at hends ⊢
  generalize q t = y at hends ⊢
  cases hends with
  | ok h => exact .ok h
  | err h => exact .err h
  | panic h => exact .panic h
  | never => exact .never

/-- When one of the programs ends, the other one ends alike. -/
theorem Relates.exists_of_some {s s' : σ} {t : τ} {x : Outcome ε α}
    (h : Relates R p q (fun _ => E) E) (hst : R s t) (hp : p s = some (x, s')) :
    ∃ t', q t = some (x, t') ∧ E s' t' := by
  have hends := h s t hst
  rw [hp] at hends
  generalize hq : q t = y at hends ⊢
  cases hends with
  | ok h => exact ⟨_, rfl, h⟩
  | err h => exact ⟨_, rfl, h⟩
  | panic h => exact ⟨_, rfl, h⟩

end Rules

/-! ### Histories -/

/-- Run one program after another, whatever they return, and collect what they return. -/
def each (p : ι → Prog σ ε α) : List ι → σ → Option (List (Outcome ε α) × σ)
  | [], s => some ([], s)
  | i :: is, s => (p i s).bind fun x => (each p is x.2).map fun y => (x.1 :: y.1, y.2)

/-- The first program, and the rest. -/
theorem each_cons {p : ι → Prog σ ε α} {i : ι} {is : List ι} {s t : σ} {xs : List (Outcome ε α)}
    (h : each p (i :: is) s = some (xs, t)) :
    ∃ x u ys, p i s = some (x, u) ∧ each p is u = some (ys, t) ∧ xs = x :: ys := by
  rw [each] at h
  obtain ⟨⟨x, u⟩, hi, h⟩ := Option.bind_eq_some_iff.mp h
  obtain ⟨⟨ys, t'⟩, hrest, h⟩ := Option.map_eq_some_iff.mp h
  obtain ⟨rfl, rfl⟩ := Prod.mk.inj h
  exact ⟨x, u, ys, hi, hrest, rfl⟩

/-- One program more. -/
theorem each_concat {p : ι → Prog σ ε α} {is : List ι} {i : ι} {s t u : σ}
    {xs : List (Outcome ε α)} {x : Outcome ε α} (h : each p is s = some (xs, t))
    (hi : p i t = some (x, u)) : each p (is ++ [i]) s = some (xs ++ [x], u) := by
  induction is generalizing s xs with
  | nil =>
    obtain ⟨rfl, rfl⟩ := Prod.mk.inj (Option.some.inj h)
    rw [List.nil_append, each, hi]
    rfl
  | cons j is ih =>
    obtain ⟨y, s', ys, hj, hrest, rfl⟩ := each_cons h
    rw [List.cons_append, each, hj, Option.bind_some, ih hrest]
    rfl

/-- Every program of a history is called in a state in which that is allowed. -/
def Legal (allowed : ι → τ → Prop) (q : ι → Prog τ ε α) : List ι → τ → Prop
  | [], _ => True
  | i :: is, t => allowed i t ∧ ∀ x u, q i t = some (x, u) → Legal allowed q is u

/-- When one of two related histories ends, the other one does. -/
theorem exists_of_rel_some {β γ : Type} {r : β → γ → Prop} {x : Option β} {c : γ}
    (h : Option.Rel r x (some c)) : ∃ b, x = some b ∧ r b c := by
  cases h with
  | some h => exact ⟨_, rfl, h⟩

theorem rel_imp {β γ : Type} {r r' : β → γ → Prop} {x : Option β} {y : Option γ}
    (h : Option.Rel r x y) (himp : ∀ b c, r b c → r' b c) : Option.Rel r' x y := by
  cases h with
  | some h => exact .some (himp _ _ h)
  | none => exact .none

/-- **The rule for histories**: the outcomes are the same, one by one, and the states stay
related. -/
theorem each_relates {R : σ → τ → Prop} {p : ι → Prog σ ε α} {q : ι → Prog τ ε α}
    {allowed : ι → τ → Prop}
    (hstep : ∀ i, Relates (fun s t => R s t ∧ allowed i t) (p i) (q i) (fun _ => R) R)
    {is : List ι} {s : σ} {t : τ} (hst : R s t) (hlegal : Legal allowed q is t) :
    Option.Rel (fun x y => x.1 = y.1 ∧ R x.2 y.2) (each p is s) (each q is t) := by
  induction is generalizing s t with
  | nil => exact .some ⟨rfl, hst⟩
  | cons i is ih =>
    obtain ⟨hallowed, hrest⟩ := hlegal
    have hends := hstep i s t ⟨hst, hallowed⟩
    -- both sides have taken the same step; what follows is related by induction
    have hnext : ∀ {x : Outcome ε α} {s' : σ} {t' : τ}, p i s = some (x, s') →
        q i t = some (x, t') → R s' t' →
        Option.Rel (fun x y => x.1 = y.1 ∧ R x.2 y.2) (each p (i :: is) s)
          (each q (i :: is) t) := by
      intro x s' t' hp hq hst'
      have htail := ih hst' (hrest x t' hq)
      rw [each, each, hp, hq, Option.bind_some, Option.bind_some]
      generalize each p is s' = u at htail ⊢
      generalize each q is t' = v at htail ⊢
      cases htail with
      | some h => exact .some ⟨congrArg _ h.1, h.2⟩
      | none => exact .none
    generalize hp : p i s = x at hends
    generalize hq : q i t = y at hends
    cases hends with
    | ok h => exact hnext hp hq h
    | err h => exact hnext hp hq h
    | panic h => exact hnext hp hq h
    | never =>
      rw [each, each, hp, hq]
      exact .none

end Prog
