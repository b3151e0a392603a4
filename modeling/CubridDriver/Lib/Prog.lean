import CubridDriver.Lib.Outcome

/-!
# Programs that leave their state behind

Programs that change a state which outlives them: when such a program fails, the state
is what the steps before the failure have made of it. A loop takes fuel, and a program
that runs out of it has no outcome, `none`.

`Prog.Triple P p Q E` is a Hoare triple with two postconditions: `Q` for a value that is
returned, and `E` for every other outcome; `Prog.Ensures P p Q E X` has a third one, for a
panic. They say nothing about a program that does not end; that a program does end is
shown by running it, with `Prog.bind_ok`.
-/

/-- Programs over a state that an error leaves as it is. -/
def Prog (σ ε α : Type) : Type := σ → Option (Outcome ε α × σ)

namespace Prog

variable {σ ε α β : Type}

/-- Return a value. -/
def ret (a : α) : Prog σ ε α := fun s => some (.ok a, s)

/-- One program after another; the second is run when the first returns a value. -/
def andThen (p : Prog σ ε α) (f : α → Prog σ ε β) : Prog σ ε β := fun s =>
  match p s with
  | some (.ok a, t) => f a t
  | some (.err e, t) => some (.err e, t)
  | some (.panic, t) => some (.panic, t)
  | none => none

instance : Monad (Prog σ ε) where
  pure := ret
  bind := andThen

/-- A computation that does not touch the state. -/
def lift (x : Outcome ε α) : Prog σ ε α := fun s => some (x, s)

/-- Return an error. -/
def throw (e : ε) : Prog σ ε α := lift (.err e)

/-- Read the state. -/
def get : Prog σ ε σ := fun s => some (.ok s, s)

/-- Change the state. -/
def modify (f : σ → σ) : Prog σ ε Unit := fun s => some (.ok (), f s)

/-- Run a program and go on if it returns an error. -/
def ignoreErr (p : Prog σ ε α) : Prog σ ε Unit := fun s =>
  match p s with
  | some (.ok _, t) => some (.ok (), t)
  | some (.err _, t) => some (.ok (), t)
  | some (.panic, t) => some (.panic, t)
  | none => none

/-- No outcome. -/
def outOfFuel : Prog σ ε α := fun _ => none

/-! ### Running -/

/-- Run the first of two programs. -/
theorem bind_ok {p : Prog σ ε α} {f : α → Prog σ ε β} {s t : σ} {a : α}
    (h : p s = some (.ok a, t)) : (p >>= f) s = f a t := by
  change andThen p f s = f a t
  rw [andThen, h]

/-- A program that fails is the last one. -/
theorem bind_err {p : Prog σ ε α} {f : α → Prog σ ε β} {s t : σ} {e : ε}
    (h : p s = some (.err e, t)) : (p >>= f) s = some (.err e, t) := by
  change andThen p f s = _
  rw [andThen, h]

/-- **A sequence ends**: both programs do, or the first one fails. -/
theorem bind_eq_some {p : Prog σ ε α} {f : α → Prog σ ε β} {s u : σ} {x : Outcome ε β} :
    (p >>= f) s = some (x, u) ↔
      (∃ a t, p s = some (.ok a, t) ∧ f a t = some (x, u)) ∨
      (∃ e, p s = some (.err e, u) ∧ x = .err e) ∨ p s = some (.panic, u) ∧ x = .panic := by
  change andThen p f s = some (x, u) ↔ _
  rw [andThen]
  rcases h : p s with - | ⟨a | e | -, t⟩
  · simp
  · simp
  · simp [eq_comm, and_comm]
  · simp [eq_comm, and_comm]

/-- **A sequence returns** when both of its parts do. -/
theorem bind_eq_ok {p : Prog σ ε α} {f : α → Prog σ ε β} {s u : σ} {b : β} :
    (p >>= f) s = some (.ok b, u) ↔ ∃ a t, p s = some (.ok a, t) ∧ f a t = some (.ok b, u) := by
  rw [bind_eq_some]
  simp

theorem andThen_assoc {γ : Type} (p : Prog σ ε α) (f : α → Prog σ ε β) (g : β → Prog σ ε γ) :
    andThen (andThen p f) g = andThen p fun a => andThen (f a) g := by
  funext s
  rw [andThen, andThen, andThen]
  rcases p s with - | ⟨a | e | -, t⟩ <;> rfl

theorem andThen_ret (p : Prog σ ε α) : andThen p ret = p := by
  funext s
  rw [andThen]
  rcases p s with - | ⟨a | e | -, t⟩ <;> rfl

instance : LawfulMonad (Prog σ ε) :=
  LawfulMonad.mk' (Prog σ ε) andThen_ret (fun _ _ => rfl) andThen_assoc

/-! ### Ending -/

/-- From the state `s` the program ends without a panic, in a state with `R`. -/
def Ends (p : Prog σ ε α) (s : σ) (R : σ → Prop) : Prop :=
  ∃ x t, p s = some (x, t) ∧ x ≠ .panic ∧ R t

theorem Ends.ret {s : σ} {R : σ → Prop} (a : α) (h : R s) : (pure a : Prog σ ε α).Ends s R :=
  ⟨.ok a, s, rfl, nofun, h⟩

theorem Ends.bind {p : Prog σ ε α} {f : α → Prog σ ε β} {s : σ} {R : σ → Prop} (hp : p.Ends s R)
    (hf : ∀ a t, R t → (f a).Ends t R) : (p >>= f).Ends s R := by
  obtain ⟨x, t, hx, hpanic, hR⟩ := hp
  cases x with
  | ok a =>
    rw [Ends, bind_ok hx]
    exact hf a t hR
  | err e => exact ⟨.err e, t, bind_eq_some.mpr (Or.inr (Or.inl ⟨e, hx, rfl⟩)), nofun, hR⟩
  | panic => exact absurd rfl hpanic

/-- When errors are ignored, ending is returning. -/
theorem Ends.ignoreErr {p : Prog σ ε α} {s : σ} {R : σ → Prop} (hp : p.Ends s R) :
    ∃ t, p.ignoreErr s = some (.ok (), t) ∧ R t := by
  obtain ⟨x, t, hx, hpanic, hR⟩ := hp
  refine ⟨t, ?_, hR⟩
  rw [Prog.ignoreErr, hx]
  cases x with
  | ok a => rfl
  | err e => rfl
  | panic => exact absurd rfl hpanic

/-- From every state the program ends, in whatever way. -/
def Halts (p : Prog σ ε α) : Prop := ∀ s, p s ≠ none

theorem halts_some (f : σ → Outcome ε α × σ) : Halts (fun s => some (f s) : Prog σ ε α) :=
  fun _ => Option.some_ne_none _

theorem halts_lift (x : Outcome ε α) : (lift x : Prog σ ε α).Halts := halts_some _

theorem Halts.bind {p : Prog σ ε α} {f : α → Prog σ ε β} (hp : p.Halts) (hf : ∀ a, (f a).Halts) :
    (p >>= f).Halts := by
  intro s
  change andThen p f s ≠ none
  rw [andThen]
  rcases h : p s with - | ⟨a | e | -, t⟩
  · exact absurd h (hp s)
  · exact hf a t
  · exact Option.some_ne_none _
  · exact Option.some_ne_none _

/-! ### Hoare triples -/

/-- From a state with `P`, whenever the program ends: `Q` holds of the value it returns
and of the state, or it returns none, and `E` holds of the state. -/
def Triple (P : σ → Prop) (p : Prog σ ε α) (Q : α → σ → Prop) (E : σ → Prop) : Prop :=
  ∀ s x t, P s → p s = some (x, t) →
    match x with
    | .ok a => Q a t
    | .err _ => E t
    | .panic => E t

/-- A triple that tells errors, which leave a state with `E`, from panics, which leave one
with `X`. -/
def Ensures (P : σ → Prop) (p : Prog σ ε α) (Q : α → σ → Prop) (E X : σ → Prop) : Prop :=
  ∀ s x t, P s → p s = some (x, t) →
    match x with
    | .ok a => Q a t
    | .err _ => E t
    | .panic => X t

section Ensures

variable {P E X : σ → Prop} {p : Prog σ ε α} {Q : α → σ → Prop}

theorem triple_iff_ensures : Triple P p Q E ↔ Ensures P p Q E E := Iff.rfl

theorem ensures_pure {a : α} (h : ∀ s, P s → Q a s) :
    Ensures P (pure a : Prog σ ε α) Q E X := by
  intro s x t hs hx
  obtain ⟨rfl, rfl⟩ := Prod.mk.inj (Option.some.inj hx)
  exact h s hs

/-- **The rule of composition.** -/
theorem ensures_bind {f : α → Prog σ ε β} {R : β → σ → Prop} (hp : Ensures P p Q E X)
    (hf : ∀ a, Ensures (Q a) (f a) R E X) : Ensures P (p >>= f) R E X := by
  intro s x u hs h
  rcases bind_eq_some.mp h with ⟨a, t, ha, hb⟩ | ⟨e, he, rfl⟩ | ⟨hpanic, rfl⟩
  · exact hf a t x u (hp s _ t hs ha) hb
  · exact hp s _ u hs he
  · exact hp s _ u hs hpanic

theorem ensures_mono {R F Y : σ → Prop} {S : α → σ → Prop} (h : Ensures R p S F Y)
    (hP : ∀ s, P s → R s) (hQ : ∀ a s, S a s → Q a s) (hE : ∀ s, F s → E s)
    (hX : ∀ s, Y s → X s) : Ensures P p Q E X := by
  intro s x t hs hx
  have hpost := h s x t (hP s hs) hx
  cases x with
  | ok a => exact hQ a t hpost
  | err e => exact hE t hpost
  | panic => exact hX t hpost

theorem ensures_pre {R : σ → Prop} (h : Ensures R p Q E X) (hP : ∀ s, P s → R s) :
    Ensures P p Q E X :=
  ensures_mono h hP (fun _ _ hs => hs) (fun _ hs => hs) fun _ hs => hs

theorem ensures_post {S : α → σ → Prop} (h : Ensures P p S E X) (hQ : ∀ a s, S a s → Q a s) :
    Ensures P p Q E X :=
  ensures_mono h (fun _ hs => hs) hQ (fun _ hs => hs) fun _ hs => hs

/-- A part of the precondition that is not about the state. -/
theorem ensures_assume {c : Prop} (h : c → Ensures P p Q E X) :
    Ensures (fun s => c ∧ P s) p Q E X := fun s x t hs hx => h hs.1 s x t hs.2 hx

theorem ensures_ite {c : Prop} [Decidable c] {q : Prog σ ε α} (hp : c → Ensures P p Q E X)
    (hq : ¬c → Ensures P q Q E X) : Ensures P (if c then p else q) Q E X := by
  split
  · exact hp ‹c›
  · exact hq ‹¬c›

theorem ensures_lift {x : Outcome ε α} (hok : ∀ a s, x = .ok a → P s → Q a s)
    (herr : ∀ e, x = .err e → ∀ s, P s → E s) (hpanic : x = .panic → ∀ s, P s → X s) :
    Ensures P (lift x : Prog σ ε α) Q E X := by
  intro s y t hs hy
  obtain ⟨rfl, rfl⟩ := Prod.mk.inj (Option.some.inj hy)
  cases x with
  | ok a => exact hok a s rfl hs
  | err e => exact herr e rfl s hs
  | panic => exact hpanic rfl s hs

theorem ensures_get : Ensures P (get : Prog σ ε σ) (fun a s => P s ∧ s = a) E X := by
  intro s x t hs hx
  obtain ⟨rfl, rfl⟩ := Prod.mk.inj (Option.some.inj hx)
  exact ⟨hs, rfl⟩

/-- What is known of the state when it is read is known of what has been read. -/
theorem ensures_get_bind {f : σ → Prog σ ε β} {R : β → σ → Prop}
    (h : ∀ s, P s → Ensures P (f s) R E X) : Ensures P (get >>= f) R E X := by
  intro s x t hs hx
  rw [bind_ok (a := s) (t := s) rfl] at hx
  exact h s hs s x t hs hx

theorem ensures_modify {f : σ → σ} {R : σ → Prop} (h : ∀ s, P s → R (f s)) :
    Ensures P (modify f : Prog σ ε Unit) (fun _ => R) E X := by
  intro s x t hs hx
  obtain ⟨rfl, rfl⟩ := Prod.mk.inj (Option.some.inj hx)
  exact h s hs

/-- A program whose errors are ignored returns none. -/
theorem ensures_ignoreErr {R : σ → Prop} (h : Ensures P p (fun _ => R) R X) :
    Ensures P (ignoreErr p) (fun _ => R) E X := by
  intro s x t hs hx
  rw [ignoreErr] at hx
  rcases hp : p s with - | ⟨a | e | -, u⟩
  · rw [hp] at hx
    cases hx
  · rw [hp] at hx
    obtain ⟨rfl, rfl⟩ := Prod.mk.inj (Option.some.inj hx)
    exact h s _ u hs hp
  · rw [hp] at hx
    obtain ⟨rfl, rfl⟩ := Prod.mk.inj (Option.some.inj hx)
    exact h s _ u hs hp
  · rw [hp] at hx
    obtain ⟨rfl, rfl⟩ := Prod.mk.inj (Option.some.inj hx)
    exact h s _ u hs hp

theorem ensures_outOfFuel : Ensures P (outOfFuel : Prog σ ε α) Q E X := nofun

end Ensures

section Triple

variable {P E : σ → Prop} {p : Prog σ ε α} {Q : α → σ → Prop}

theorem triple_pure {a : α} (h : ∀ s, P s → Q a s) : Triple P (pure a : Prog σ ε α) Q E :=
  triple_iff_ensures.mpr (ensures_pure h)

theorem triple_bind {f : α → Prog σ ε β} {R : β → σ → Prop} (hp : Triple P p Q E)
    (hf : ∀ a, Triple (Q a) (f a) R E) : Triple P (p >>= f) R E :=
  triple_iff_ensures.mpr (ensures_bind hp hf)

/-- A last step that changes the value. -/
theorem triple_map {g : α → β} {R : σ → Prop} (hp : Triple P p (fun _ => R) E) :
    Triple P (g <$> p) (fun _ => R) E :=
  triple_bind hp fun _ => triple_pure fun _ hs => hs

theorem triple_mono {R F : σ → Prop} {S : α → σ → Prop} (h : Triple R p S F)
    (hP : ∀ s, P s → R s) (hQ : ∀ a s, S a s → Q a s) (hE : ∀ s, F s → E s) :
    Triple P p Q E :=
  triple_iff_ensures.mpr (ensures_mono h hP hQ hE hE)

theorem triple_pre {R : σ → Prop} (h : Triple R p Q E) (hP : ∀ s, P s → R s) : Triple P p Q E :=
  triple_iff_ensures.mpr (ensures_pre h hP)

theorem triple_post {S : α → σ → Prop} (h : Triple P p S E) (hQ : ∀ a s, S a s → Q a s) :
    Triple P p Q E :=
  triple_iff_ensures.mpr (ensures_post h hQ)

theorem triple_ite {c : Prop} [Decidable c] {q : Prog σ ε α} (hp : c → Triple P p Q E)
    (hq : ¬c → Triple P q Q E) : Triple P (if c then p else q) Q E :=
  triple_iff_ensures.mpr (ensures_ite hp hq)

theorem triple_lift {x : Outcome ε α} (hok : ∀ a s, x = .ok a → P s → Q a s)
    (herr : ∀ s, P s → E s) : Triple P (lift x : Prog σ ε α) Q E :=
  triple_iff_ensures.mpr (ensures_lift hok (fun _ _ => herr) fun _ => herr)

theorem triple_throw {e : ε} (herr : ∀ s, P s → E s) :
    Triple P (throw e : Prog σ ε α) Q E :=
  triple_lift (fun _ _ heq => by cases heq) herr

theorem triple_get : Triple P (get : Prog σ ε σ) (fun a s => P s ∧ s = a) E :=
  triple_iff_ensures.mpr ensures_get

theorem triple_modify {f : σ → σ} {R : σ → Prop} (h : ∀ s, P s → R (f s)) :
    Triple P (modify f : Prog σ ε Unit) (fun _ => R) E :=
  triple_iff_ensures.mpr (ensures_modify h)

/-- A program whose errors are ignored must do no harm when it fails. -/
theorem triple_ignoreErr (h : Triple P p (fun _ => E) E) :
    Triple P (ignoreErr p) (fun _ => E) E := by
  intro s x t hs hx
  rw [ignoreErr] at hx
  rcases hp : p s with - | ⟨a | e | -, u⟩
  · rw [hp] at hx
    cases hx
  · rw [hp] at hx
    obtain ⟨rfl, rfl⟩ := Prod.mk.inj (Option.some.inj hx)
    exact h s _ u hs hp
  · rw [hp] at hx
    obtain ⟨rfl, rfl⟩ := Prod.mk.inj (Option.some.inj hx)
    exact h s _ u hs hp
  · rw [hp] at hx
    obtain ⟨rfl, rfl⟩ := Prod.mk.inj (Option.some.inj hx)
    exact h s _ u hs hp

end Triple

end Prog
