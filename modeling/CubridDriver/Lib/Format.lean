import CubridDriver.Lib.Checked
import Mathlib.Computability.Language

/-!
# Formats

A format is a set of words, a `Language`: the ways a value may be written. Formats are
put together with the operations of languages, so the format of a record is the product
of the formats of its fields.

* `Format.ReadsAll p F a` says that the reader `p` returns `a` on every word of `F`,
  whatever follows it.
* `Format.ReadsFinal p F a` says so when nothing follows. A reader that looks at how much
  is left can be proved to do no more.

The rules follow the reader: one for a field and what comes after it, one for a field
whose value is dropped, one for each kind of loop.
-/

namespace Format

open Checked

variable {σ ε α β γ δ : Type} {Valid : σ → Prop} {input : σ → List δ}

/-- The words of a given length. -/
def any (n : ℕ) : Language δ := {w | w.length = n}

/-- On every word of the format, followed by anything, the reader returns `a`. -/
def ReadsAll (Valid : σ → Prop) (input : σ → List δ) (p : Checked σ ε α) (F : Language δ) (a : α) :
    Prop := ∀ w ∈ F, Reads Valid input p w a

/-- On every word of the format, with nothing behind it, the reader returns `a` and has
read everything. -/
def ReadsFinal (Valid : σ → Prop) (input : σ → List δ) (p : Checked σ ε α) (F : Language δ)
    (a : α) : Prop :=
  ∀ w ∈ F, ∀ s, Valid s → input s = w → ∃ t, p s = .ok (a, t) ∧ Valid t ∧ input t = []

/-- On every word of the format the reader returns something of which `C` holds. -/
def ReadsSome (Valid : σ → Prop) (input : σ → List δ) (p : Checked σ ε α) (F : Language δ)
    (C : α → Prop) : Prop := ∀ w ∈ F, ∃ a, C a ∧ Reads Valid input p w a

variable {p : Checked σ ε α} {f : α → Checked σ ε β} {F G : Language δ} {a : α} {b : β}
  {C : α → Prop}

/-- One word. -/
theorem readsAll_singleton {w : List δ} (h : Reads Valid input p w a) :
    ReadsAll Valid input p {w} a := by
  rintro w' rfl
  exact h

/-- Nothing is read. -/
theorem readsAll_pure (a : α) : ReadsAll Valid input (pure a : Checked σ ε α) 1 a :=
  readsAll_singleton (reads_pure a)

/-- **A field and what comes after it.** -/
theorem ReadsAll.bind (hp : ReadsAll Valid input p F a) (hf : ReadsAll Valid input (f a) G b) :
    ReadsAll Valid input (p >>= f) (F * G) b := by
  intro w hw
  obtain ⟨u, hu, v, hv, rfl⟩ := Language.mem_mul.mp hw
  exact reads_bind (hp u hu) (hf v hv)

/-- **A field of whose value no more is used than `C`.** -/
theorem ReadsSome.bind (hp : ReadsSome Valid input p F C)
    (hf : ∀ a, C a → ReadsAll Valid input (f a) G b) :
    ReadsAll Valid input (p >>= f) (F * G) b := by
  intro w hw
  obtain ⟨u, hu, v, hv, rfl⟩ := Language.mem_mul.mp hw
  obtain ⟨a, hC, ha⟩ := hp u hu
  exact reads_bind ha (hf a hC v hv)

/-- The last field. -/
theorem ReadsAll.map (hp : ReadsAll Valid input p F a) (g : α → β) :
    ReadsAll Valid input (p >>= fun a => pure (g a)) F (g a) :=
  fun w hw => reads_map g (hp w hw)

/-- The last field, whose value is dropped. -/
theorem ReadsSome.map (hp : ReadsSome Valid input p F C) (b : β) :
    ReadsAll Valid input (p >>= fun _ => pure b) F b := by
  intro w hw
  obtain ⟨a, -, ha⟩ := hp w hw
  exact reads_map (fun _ => b) ha

/-- A step that reads nothing. -/
theorem readsAll_lift_bind {x : Outcome ε α} (hx : x = .ok a)
    (hf : ReadsAll Valid input (f a) F b) : ReadsAll Valid input (lift x >>= f) F b := by
  intro w hw s tail hs hinput
  rw [bind_apply, lift, hx]
  exact hf w hw s tail hs hinput

/-! ### Writing lists -/

/-- The words of the elements, one after another. -/
theorem flatten_map_mem {as : List α} {encode : α → List δ} {format : α → Language δ}
    (h : ∀ a ∈ as, encode a ∈ format a) : (as.map encode).flatten ∈ (as.map format).prod := by
  induction as with
  | nil => exact rfl
  | cons a as ih =>
    rw [List.map_cons, List.map_cons, List.flatten_cons, List.prod_cons]
    exact Language.append_mem_mul (h a List.mem_cons_self)
      (ih fun a' ha' => h a' (List.mem_cons_of_mem a ha'))

/-- A word for each pair of elements. -/
theorem flatten_zipWith_mem {xs : List γ} {as : List α} {encode : γ → α → List δ}
    {format : γ → α → Language δ} (h : List.Forall₂ (fun x a => encode x a ∈ format x a) xs as) :
    (xs.zipWith encode as).flatten ∈ (xs.zipWith format as).prod := by
  induction h with
  | nil => exact rfl
  | cons hword _ ih =>
    rw [List.zipWith_cons_cons, List.zipWith_cons_cons, List.flatten_cons, List.prod_cons]
    exact Language.append_mem_mul hword ih

/-! ### With nothing behind -/

theorem ReadsAll.final (h : ReadsAll Valid input p F a) : ReadsFinal Valid input p F a :=
  fun w hw s hs hinput => h w hw s [] hs (by rw [hinput, List.append_nil])

theorem ReadsAll.bind_final (hp : ReadsAll Valid input p F a)
    (hf : ReadsFinal Valid input (f a) G b) : ReadsFinal Valid input (p >>= f) (F * G) b := by
  intro w hw s hs hinput
  obtain ⟨u, hu, v, hv, rfl⟩ := Language.mem_mul.mp hw
  obtain ⟨t, ht, htvalid, htinput⟩ := hp u hu s v hs hinput
  rw [bind_apply, ht, Outcome.ok_bind]
  exact hf v hv t htvalid htinput

theorem ReadsSome.bind_final (hp : ReadsSome Valid input p F C)
    (hf : ∀ a, C a → ReadsFinal Valid input (f a) G b) :
    ReadsFinal Valid input (p >>= f) (F * G) b := by
  intro w hw s hs hinput
  obtain ⟨u, hu, v, hv, rfl⟩ := Language.mem_mul.mp hw
  obtain ⟨a, hC, ha⟩ := hp u hu
  obtain ⟨t, ht, htvalid, htinput⟩ := ha s v hs hinput
  rw [bind_apply, ht, Outcome.ok_bind]
  exact hf a hC v hv t htvalid htinput

/-- A last step that reads nothing. -/
theorem ReadsFinal.last (hp : ReadsFinal Valid input p F a) (hf : ReadsAll Valid input (f a) 1 b) :
    ReadsFinal Valid input (p >>= f) F b := by
  intro w hw s hs hinput
  obtain ⟨t, ht, htvalid, htinput⟩ := hp w hw s hs hinput
  rw [bind_apply, ht, Outcome.ok_bind]
  exact hf [] rfl t [] htvalid (by rw [htinput, List.append_nil])

/-! ### Loops -/

/-- **A list of things**, one after another. -/
theorem readsAll_repeatM {as : List α} {format : α → Language δ}
    (h : ∀ a ∈ as, ReadsAll Valid input p (format a) a) :
    ReadsAll Valid input (repeatM p as.length) (as.map format).prod as := by
  induction as with
  | nil => exact readsAll_pure []
  | cons a as ih =>
    rw [List.map_cons, List.prod_cons]
    exact (h a List.mem_cons_self).bind ((ih fun a' ha' => h a' (List.mem_cons_of_mem _ ha')).map _)

/-- **One thing for every element of a list.** -/
theorem readsAll_forEach {p : γ → Checked σ ε α} {format : γ → α → Language δ} {xs : List γ}
    {as : List α} (hlen : as.length = xs.length)
    (h : ∀ x ∈ xs, ∀ a, ReadsAll Valid input (p x) (format x a) a) :
    ReadsAll Valid input (forEach p xs) (xs.zipWith format as).prod as := by
  induction xs generalizing as with
  | nil =>
    obtain rfl := List.length_eq_zero_iff.mp hlen
    exact readsAll_pure []
  | cons x xs ih =>
    cases as with
    | nil => cases hlen
    | cons a as =>
      rw [List.zipWith_cons_cons, List.prod_cons]
      have hrest := ih (Nat.succ.inj hlen) fun x' hx' => h x' (List.mem_cons_of_mem _ hx')
      exact (h x List.mem_cons_self a).bind (hrest.map _)

end Format
