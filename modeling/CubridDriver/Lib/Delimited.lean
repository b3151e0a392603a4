import CubridDriver.Lib.Checked

/-!
# Readers that delimit what they read

A reader that returns a value has read a word of its input. `Checked.ReadsExactly` says
that nothing but this word has to do with it: followed by anything the word is read as the
same value, and of the word cut short nothing is read, which is an error.
`Checked.Delimited` says so of every value that the reader returns.

Such readers can be put one after another, chosen between by a value that has been read,
and run in a loop. What does not belong here is a reader that looks at how much is left.
-/

namespace Checked

variable {σ ε α β δ : Type} (Valid : σ → Prop) (input : σ → List δ)

/-- On an input that is the beginning of `w`, but not the whole of it, the reader returns an
error. -/
def FailsShort (p : Checked σ ε α) (w : List δ) : Prop :=
  ∀ s, Valid s → input s <+: w → input s ≠ w → ∃ e, p s = .err e

/-- The word, followed by anything, is read as `a`, and no less than it will do. -/
structure ReadsExactly (p : Checked σ ε α) (w : List δ) (a : α) : Prop where
  reads : Reads Valid input p w a
  failsShort : FailsShort Valid input p w

/-- What is read before a value is returned is a word that delimits itself. -/
def Delimited (p : Checked σ ε α) : Prop :=
  ∀ s a t, Valid s → p s = .ok (a, t) →
    Valid t ∧ ∃ w, input s = w ++ input t ∧ ReadsExactly Valid input p w a

variable {Valid} {input} {p : Checked σ ε α} {f : α → Checked σ ε β} {v w : List δ} {a : α} {b : β}

/-! ### Single words -/

/-- Nothing is read, and nothing can be cut. -/
theorem failsShort_nil : FailsShort Valid input p ([] : List δ) :=
  fun _ _ hpre hne => absurd (List.prefix_nil.mp hpre) hne

theorem readsExactly_pure (a : α) :
    ReadsExactly Valid input (pure a : Checked σ ε α) ([] : List δ) a :=
  ⟨reads_pure a, failsShort_nil⟩

/-- **Reading one thing after another.** A cut is either within the first word, or behind it
and within the second. -/
theorem ReadsExactly.bind (hp : ReadsExactly Valid input p w a)
    (hf : ReadsExactly Valid input (f a) v b) : ReadsExactly Valid input (p >>= f) (w ++ v) b := by
  refine ⟨reads_bind hp.reads hf.reads, fun s hs hpre hne => ?_⟩
  by_cases hlen : w.length ≤ (input s).length
  · obtain ⟨u, hu⟩ := List.prefix_of_prefix_length_le (List.prefix_append w v) hpre hlen
    obtain ⟨t, ht, htvalid, rfl⟩ := hp.reads s u hs hu.symm
    rw [← hu] at hpre hne
    have hshort : input t <+: v := (List.prefix_append_right_inj w).mp hpre
    obtain ⟨e, he⟩ := hf.failsShort t htvalid hshort fun heq => hne (congrArg _ heq)
    exact ⟨e, by rw [bind_apply, ht, Outcome.ok_bind, he]⟩
  · have hshort : input s <+: w :=
      List.prefix_of_prefix_length_le hpre (List.prefix_append w v) (Nat.le_of_not_le hlen)
    have hne' : input s ≠ w := fun heq => hlen (Nat.le_of_eq (congrArg List.length heq.symm))
    obtain ⟨e, he⟩ := hp.failsShort s hs hshort hne'
    exact ⟨e, by rw [bind_apply, he, Outcome.err_bind]⟩

/-! ### Readers -/

theorem delimited_pure (a : α) : Delimited Valid input (pure a : Checked σ ε α) := by
  intro s b t hs h
  obtain ⟨rfl, rfl⟩ := Prod.mk.inj (Outcome.ok.inj h)
  exact ⟨hs, [], rfl, readsExactly_pure a⟩

theorem delimited_throw (e : ε) : Delimited Valid input (throw e : Checked σ ε α) :=
  fun _ _ _ _ h => by cases h

/-- A step that reads nothing. -/
theorem delimited_lift (x : Outcome ε α) : Delimited Valid input (lift x) := by
  cases x with
  | ok a => exact delimited_pure a
  | err e => exact fun _ _ _ _ h => by cases h
  | panic => exact fun _ _ _ _ h => by cases h

/-- **The rule of composition.** -/
theorem delimited_bind (hp : Delimited Valid input p) (hf : ∀ a, Delimited Valid input (f a)) :
    Delimited Valid input (p >>= f) := by
  intro s b u hs h
  obtain ⟨⟨a, t⟩, ha, hb⟩ := Outcome.bind_eq_ok.mp h
  obtain ⟨ht, w, hw, hexact⟩ := hp s a t hs ha
  obtain ⟨hu, v, hv, hexact'⟩ := hf a t b u ht hb
  exact ⟨hu, w ++ v, by rw [hw, hv, List.append_assoc], hexact.bind hexact'⟩

/-- A last step that reads nothing. -/
theorem delimited_map (g : α → β) (hp : Delimited Valid input p) :
    Delimited Valid input (p >>= fun a => pure (g a)) :=
  delimited_bind hp fun _ => delimited_pure _

/-- Only what the reader does in valid states matters. -/
theorem delimited_congr {q : Checked σ ε α} (heq : ∀ s, Valid s → p s = q s)
    (hq : Delimited Valid input q) : Delimited Valid input p := by
  intro s a t hs h
  rw [heq s hs] at h
  obtain ⟨ht, w, hw, hreads, hshort⟩ := hq s a t hs h
  refine ⟨ht, w, hw, fun s' tail hs' hinput => ?_, fun s' hs' hpre hne => ?_⟩
  · rw [heq s' hs']
    exact hreads s' tail hs' hinput
  · rw [heq s' hs']
    exact hshort s' hs' hpre hne

theorem delimited_ite {c : Prop} [Decidable c] {q : Checked σ ε α} (hp : Delimited Valid input p)
    (hq : Delimited Valid input q) : Delimited Valid input (if c then p else q) := by
  split
  · exact hp
  · exact hq

/-- **The rule of the counting loop.** -/
theorem delimited_repeatM (hp : Delimited Valid input p) (n : ℕ) :
    Delimited Valid input (repeatM p n) := by
  induction n with
  | zero => exact delimited_pure []
  | succ n ih => exact delimited_bind hp fun a => delimited_map _ ih

/-- **The rule of the loop over a list.** -/
theorem delimited_forEach {p : α → Checked σ ε β} (hp : ∀ a, Delimited Valid input (p a))
    (as : List α) : Delimited Valid input (forEach p as) := by
  induction as with
  | nil => exact delimited_pure []
  | cons a as ih => exact delimited_bind (hp a) fun b => delimited_map _ ih

end Checked
