import CubridDriver.Lib.Outcome

/-!
# Checked programs with a state

Programs that carry a state through and may return an error or panic, and the rules
for reasoning about them.

* `Checked.Triple P p Q` is a Hoare triple: from a state with `P` the program does not
  panic, and where it returns a value, `Q` holds of the value and the state. There is
  one rule for each way to compose programs, loops included.
* `Checked.Returns p C` says no more than that a value which is returned has `C`, from
  any state.
* `Checked.Reads` is the judgement of a reader whose state has an input that is left:
  on the input `bs` followed by anything it returns the value `a` and leaves what
  follows. Round trips are proved by composing such judgements along the format.
-/

/-- Programs over a state that may fail or panic. -/
abbrev Checked (σ ε α : Type) : Type := StateT σ (Outcome ε) α

namespace Checked

variable {σ ε α β γ : Type}

theorem bind_apply (p : Checked σ ε α) (f : α → Checked σ ε β) (s : σ) :
    (p >>= f) s = p s >>= fun x => f x.1 x.2 := rfl

/-- Return an error. -/
def throw (e : ε) : Checked σ ε α := fun _ => .err e

/-- Run a computation that does not touch the state. -/
def lift (x : Outcome ε α) : Checked σ ε α := fun s => x >>= fun a => .ok (a, s)

theorem lift_ok (a : α) : (lift (.ok a) : Checked σ ε α) = pure a := rfl

/-- Run a program `n` times and collect its values. -/
def repeatM (p : Checked σ ε α) : ℕ → Checked σ ε (List α)
  | 0 => pure []
  | n + 1 => do
      let a ← p
      let as ← repeatM p n
      return a :: as

/-- Run a program for every element of a list and collect its values. -/
def forEach (p : α → Checked σ ε β) : List α → Checked σ ε (List β)
  | [] => pure []
  | a :: as => do
      let b ← p a
      let bs ← forEach p as
      return b :: bs

/-! ### Hoare triples -/

/-- From a state with `P` the program does not panic, and `Q` holds of what it
returns. -/
def Triple (P : σ → Prop) (p : Checked σ ε α) (Q : α → σ → Prop) : Prop :=
  ∀ s, P s → p s ≠ .panic ∧ ∀ a t, p s = .ok (a, t) → Q a t

section Triple

variable {P : σ → Prop} {p : Checked σ ε α} {Q : α → σ → Prop}

theorem triple_pure {a : α} (h : ∀ s, P s → Q a s) : Triple P (pure a : Checked σ ε α) Q := by
  intro s hs
  refine ⟨nofun, fun b t hb => ?_⟩
  obtain ⟨rfl, rfl⟩ := Prod.mk.inj (Outcome.ok.inj hb)
  exact h s hs

theorem triple_throw (e : ε) : Triple P (throw e : Checked σ ε α) Q := by
  intro s _
  exact ⟨nofun, fun a t h => nomatch h⟩

/-- **The rule of composition.** -/
theorem triple_bind {f : α → Checked σ ε β} {R : β → σ → Prop} (hp : Triple P p Q)
    (hf : ∀ a, Triple (Q a) (f a) R) : Triple P (p >>= f) R := by
  intro s hs
  obtain ⟨hsafe, hpost⟩ := hp s hs
  rw [bind_apply]
  constructor
  · intro hpanic
    rcases Outcome.bind_eq_panic.mp hpanic with h | ⟨x, hx, h⟩
    · exact hsafe h
    · exact (hf x.1 x.2 (hpost x.1 x.2 hx)).1 h
  · intro b t h
    obtain ⟨x, hx, hb⟩ := Outcome.bind_eq_ok.mp h
    exact (hf x.1 x.2 (hpost x.1 x.2 hx)).2 b t hb

theorem triple_mono {P' : σ → Prop} {Q' : α → σ → Prop} (h : Triple P' p Q')
    (hP : ∀ s, P s → P' s) (hQ : ∀ a s, Q' a s → Q a s) : Triple P p Q := by
  intro s hs
  obtain ⟨hsafe, hpost⟩ := h s (hP s hs)
  exact ⟨hsafe, fun a t ha => hQ a t (hpost a t ha)⟩

theorem triple_ite {c : Prop} [Decidable c] {q : Checked σ ε α} (hp : c → Triple P p Q)
    (hq : ¬c → Triple P q Q) : Triple P (if c then p else q) Q := by
  split
  · exact hp ‹c›
  · exact hq ‹¬c›

/-- **The rule of the counting loop.** -/
theorem triple_repeatM (n : ℕ) (h : Triple P p fun _ => P) :
    Triple P (repeatM p n) fun as s => as.length = n ∧ P s := by
  induction n with
  | zero => exact triple_pure fun s hs => ⟨rfl, hs⟩
  | succ n ih =>
    refine triple_bind h fun a => triple_bind ih fun as => triple_pure ?_
    rintro s ⟨rfl, hs⟩
    exact ⟨List.length_cons, hs⟩

/-- **The rule of the loop over a list.** -/
theorem triple_forEach {p : α → Checked σ ε β} (as : List α)
    (h : ∀ a ∈ as, Triple P (p a) fun _ => P) : Triple P (forEach p as) fun _ => P := by
  induction as with
  | nil => exact triple_pure fun s hs => hs
  | cons a as ih =>
    refine triple_bind (h a (by simp)) fun b => ?_
    exact triple_bind (ih fun a' ha' => h a' (by simp [ha'])) fun bs => triple_pure fun s hs => hs

end Triple

/-! ### What is returned -/

/-- Wherever it starts, a value the program returns has `C`. -/
def Returns (p : Checked σ ε α) (C : α → Prop) : Prop := ∀ s a t, p s = .ok (a, t) → C a

section Returns

variable {p : Checked σ ε α} {B C : α → Prop}

theorem returns_any : Returns p fun _ => True := fun _ _ _ _ => trivial

theorem returns_pure {a : α} (h : C a) : Returns (pure a : Checked σ ε α) C := by
  intro s b t hb
  obtain ⟨rfl, -⟩ := Prod.mk.inj (Outcome.ok.inj hb)
  exact h

theorem returns_throw (e : ε) : Returns (throw e : Checked σ ε α) C := by
  intro s a t h
  cases h

theorem returns_bind {f : α → Checked σ ε β} {D : β → Prop} (hp : Returns p B)
    (hf : ∀ a, B a → Returns (f a) D) : Returns (p >>= f) D := by
  intro s b t h
  obtain ⟨x, hx, hb⟩ := Outcome.bind_eq_ok.mp h
  exact hf x.1 (hp s x.1 x.2 hx) x.2 b t hb

/-- A step of which nothing has to be known. -/
theorem returns_then {f : α → Checked σ ε β} {D : β → Prop} (hf : ∀ a, Returns (f a) D) :
    Returns (p >>= f) D := returns_bind returns_any fun a _ => hf a

theorem returns_ite {c : Prop} [Decidable c] {q : Checked σ ε α} (hp : c → Returns p C)
    (hq : ¬c → Returns q C) : Returns (if c then p else q) C := by
  split
  · exact hp ‹c›
  · exact hq ‹¬c›

theorem returns_repeatM (h : Returns p C) (n : ℕ) :
    Returns (repeatM p n) fun as => ∀ a ∈ as, C a := by
  induction n with
  | zero => exact returns_pure fun a ha => absurd ha List.not_mem_nil
  | succ n ih =>
    refine returns_bind h fun a ha => returns_bind ih fun as has => returns_pure fun b hb => ?_
    rcases List.mem_cons.mp hb with rfl | hb
    · exact ha
    · exact has b hb

/-- The counting loop returns one value for each time. -/
theorem returns_length_repeatM (p : Checked σ ε α) (n : ℕ) :
    Returns (repeatM p n) fun as => as.length = n := by
  induction n with
  | zero => exact returns_pure rfl
  | succ n ih =>
    refine returns_then fun a => returns_bind ih fun as has => returns_pure ?_
    rw [List.length_cons, has]

/-- The loop over a list returns one value for each of its elements. -/
theorem returns_forEach {p : α → Checked σ ε β} {D : α → β → Prop} (h : ∀ a, Returns (p a) (D a))
    (as : List α) : Returns (forEach p as) fun bs => List.Forall₂ D as bs := by
  induction as with
  | nil => exact returns_pure .nil
  | cons a as ih =>
    exact returns_bind (h a) fun b hb => returns_bind ih fun bs hbs => returns_pure (.cons hb hbs)

end Returns

/-! ### Readers -/

section Reads

variable {δ : Type} (Valid : σ → Prop) (input : σ → List δ)

/-- On the input `bs`, followed by anything, the reader returns `a` and leaves what
follows. -/
def Reads (p : Checked σ ε α) (bs : List δ) (a : α) : Prop :=
  ∀ s tail, Valid s → input s = bs ++ tail →
    ∃ t, p s = .ok (a, t) ∧ Valid t ∧ input t = tail

variable {Valid} {input} {p : Checked σ ε α} {bs cs : List δ} {a : α}

theorem reads_pure (a : α) : Reads Valid input (pure a : Checked σ ε α) [] a :=
  fun s _ hs hinput => ⟨s, rfl, hs, hinput⟩

/-- **Reading one thing after another.** -/
theorem reads_bind {f : α → Checked σ ε β} {b : β} (hp : Reads Valid input p bs a)
    (hf : Reads Valid input (f a) cs b) : Reads Valid input (p >>= f) (bs ++ cs) b := by
  intro s tail hs hinput
  obtain ⟨t, ht, htvalid, htinput⟩ := hp s (cs ++ tail) hs (by rw [hinput, List.append_assoc])
  obtain ⟨u, hu, huvalid, huinput⟩ := hf t tail htvalid htinput
  exact ⟨u, by rw [bind_apply, ht, Outcome.ok_bind, hu], huvalid, huinput⟩

/-- A last step that reads nothing. -/
theorem reads_last {f : α → Checked σ ε β} {b : β} (hp : Reads Valid input p bs a)
    (hf : Reads Valid input (f a) [] b) : Reads Valid input (p >>= f) bs b := by
  have h := reads_bind hp hf
  rwa [List.append_nil] at h

theorem reads_map (g : α → β) (hp : Reads Valid input p bs a) :
    Reads Valid input (p >>= fun a => pure (g a)) bs (g a) := reads_last hp (reads_pure _)

/-- **Reading a sequence**, in which every thing is read in its own way. -/
theorem reads_forEach {ι : Type} {q : γ → Checked σ ε α} {kind : ι → γ} {word : ι → List δ}
    {value : ι → α} {is : List ι}
    (h : ∀ i ∈ is, Reads Valid input (q (kind i)) (word i) (value i)) :
    Reads Valid input (forEach q (is.map kind)) (is.map word).flatten (is.map value) := by
  induction is with
  | nil => exact reads_pure []
  | cons i is ih =>
    rw [List.map_cons, List.map_cons, List.flatten_cons]
    refine reads_bind (h i List.mem_cons_self) ?_
    exact reads_map _ (ih fun j hj => h j (List.mem_cons_of_mem i hj))

/-- **Reading a sequence** in which every thing is read in the same way. -/
theorem reads_repeatM {ι : Type} {word : ι → List δ} {value : ι → α} {is : List ι}
    (h : ∀ i ∈ is, Reads Valid input p (word i) (value i)) :
    Reads Valid input (repeatM p is.length) (is.map word).flatten (is.map value) := by
  induction is with
  | nil => exact reads_pure []
  | cons i is ih =>
    rw [List.map_cons, List.flatten_cons]
    refine reads_bind (h i List.mem_cons_self) ?_
    exact reads_map _ (ih fun j hj => h j (List.mem_cons_of_mem i hj))

end Reads

end Checked
