import Mathlib.Data.List.Basic

/-!
# Histories

A history is the list of what has happened, the last event at its end. Two operators
speak of it, as the past operators of temporal logic do: `History.Each` of what comes
before each event, and `History.Since` of an event that nothing has undone.

A history grows at its end, so both come with a rule for one more event,
`History.each_concat` and `History.since_concat`; an invariant is carried along a history
by these.
-/

namespace History

variable {α : Type*} {R : List α → α → Prop} {p q : α → Prop} {l l' : List α} {a : α}

/-! ### At each event -/

/-- `R` holds of each event and of what came before it. -/
def Each (R : List α → α → Prop) (l : List α) : Prop :=
  ∀ before a after, l = before ++ a :: after → R before a

theorem each_nil : Each R [] := by
  intro before a after h
  cases before <;> cases h

/-- What has been true of a longer history has been true of a shorter one. -/
theorem Each.of_append (h : Each R (l ++ l')) : Each R l := fun before a after hl =>
  h before a (after ++ l') (by rw [hl, List.append_assoc, List.cons_append])

/-- **One more event.** -/
theorem each_concat : Each R (l ++ [a]) ↔ Each R l ∧ R l a := by
  refine ⟨fun h => ⟨h.of_append, h l a [] rfl⟩, ?_⟩
  rintro ⟨hl, ha⟩ before b after h
  rcases List.eq_nil_or_concat after with rfl | ⟨after', c, rfl⟩
  · obtain ⟨rfl, hb⟩ := List.append_inj' h rfl
    exact List.singleton_inj.mp hb ▸ ha
  · rw [List.concat_eq_append, ← List.cons_append, ← List.append_assoc] at h
    exact hl before b after' (List.append_inj' h rfl).1

/-- The event at a given place. -/
theorem Each.getElem? (h : Each R l) {i : ℕ} (hi : l[i]? = some a) : R (l.take i) a := by
  obtain ⟨hlt, rfl⟩ := List.getElem?_eq_some_iff.mp hi
  refine h _ _ (l.drop (i + 1)) ?_
  rw [List.getElem_cons_drop, List.take_append_drop]

/-! ### Since an event -/

/-- There has been an event with `p`, and none with `q` after it. -/
def Since (p q : α → Prop) (l : List α) : Prop :=
  ∃ before a after, l = before ++ a :: after ∧ p a ∧ ∀ b ∈ after, ¬q b

theorem not_since_nil : ¬Since p q [] := by
  rintro ⟨before, a, after, h, -⟩
  cases before <;> cases h

/-- **One more event**: it is the one, or it has not undone the one there was. -/
theorem since_concat : Since p q (l ++ [a]) ↔ p a ∨ Since p q l ∧ ¬q a := by
  constructor
  · rintro ⟨before, b, after, h, hp, hq⟩
    rcases List.eq_nil_or_concat after with rfl | ⟨after', c, rfl⟩
    · obtain ⟨-, hb⟩ := List.append_inj' h rfl
      exact Or.inl (List.singleton_inj.mp hb ▸ hp)
    · rw [List.concat_eq_append, ← List.cons_append, ← List.append_assoc] at h
      obtain ⟨hl, hc⟩ := List.append_inj' h rfl
      obtain rfl := List.singleton_inj.mp hc
      refine Or.inr ⟨⟨before, b, after', hl, hp, fun x hx => hq x ?_⟩, hq _ ?_⟩
      · rw [List.concat_eq_append]
        exact List.mem_append_left _ hx
      · rw [List.concat_eq_append]
        exact List.mem_append_right _ (List.mem_singleton_self _)
  · rintro (hp | ⟨⟨before, b, after, rfl, hp, hq⟩, hqa⟩)
    · exact ⟨l, a, [], rfl, hp, nofun⟩
    · refine ⟨before, b, after ++ [a], by rw [List.append_assoc, List.cons_append], hp, ?_⟩
      intro x hx
      rcases List.mem_append.mp hx with hx | hx
      · exact hq x hx
      · exact List.mem_singleton.mp hx ▸ hqa

end History
