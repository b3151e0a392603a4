import Mathlib.Data.List.Basic
import Mathlib.Data.List.DropRight
import Mathlib.Data.Option.Basic

/-!
# Cutting lists

A list is cut at the first or at the last place where an element stands. The element goes,
and the two parts are returned.

`List.cutFirst_eq_some` and `List.cutLast_eq_some` say which parts these are. What is dropped
from the end of a list because it equals an element is that element, some number of times
(`List.exists_rdropWhile_append_replicate`).
-/

namespace List

variable {α : Type*} [DecidableEq α] {a : α} {l x y : List α}

/-- What stands before and after the first `a`. -/
def cutFirst (a : α) : List α → Option (List α × List α)
  | [] => none
  | b :: l => if b = a then some ([], l) else (cutFirst a l).map fun p => (b :: p.1, p.2)

/-- What stands before and after the last `a`. -/
def cutLast (a : α) (l : List α) : Option (List α × List α) :=
  (cutFirst a l.reverse).map fun p => (p.2.reverse, p.1.reverse)

theorem cutFirst_eq_none : cutFirst a l = none ↔ a ∉ l := by
  induction l with
  | nil => simp [cutFirst]
  | cons b l ih =>
    rw [cutFirst, mem_cons, not_or]
    split
    · simp [*]
    · rename_i hne
      rw [Option.map_eq_none_iff, ih, and_iff_right (Ne.symm hne)]

/-- **The first part has no `a`.** -/
theorem cutFirst_eq_some : cutFirst a l = some (x, y) ↔ l = x ++ a :: y ∧ a ∉ x := by
  induction l generalizing x with
  | nil => simp [cutFirst]
  | cons b l ih =>
    rw [cutFirst]
    by_cases hb : b = a
    · rw [if_pos hb]
      constructor
      · intro h
        obtain ⟨rfl, rfl⟩ := Prod.mk.inj (Option.some.inj h)
        exact ⟨by rw [hb, nil_append], not_mem_nil⟩
      · rintro ⟨h, ha⟩
        cases x with
        | nil => rw [(cons.inj h).2]
        | cons c x => exact absurd (mem_cons.mpr (.inl (hb.symm.trans (cons.inj h).1))) ha
    · rw [if_neg hb, Option.map_eq_some_iff]
      constructor
      · rintro ⟨⟨u, v⟩, hcut, heq⟩
        obtain ⟨rfl, rfl⟩ := Prod.mk.inj heq
        obtain ⟨rfl, ha⟩ := ih.mp hcut
        exact ⟨rfl, fun h => (mem_cons.mp h).elim (Ne.symm hb) ha⟩
      · rintro ⟨h, ha⟩
        cases x with
        | nil => exact absurd (cons.inj h).1 hb
        | cons c x =>
          obtain ⟨rfl, hl⟩ := cons.inj h
          exact ⟨(x, y), ih.mpr ⟨hl, fun h => ha (mem_cons_of_mem b h)⟩, rfl⟩

theorem cutLast_eq_none : cutLast a l = none ↔ a ∉ l := by
  rw [cutLast, Option.map_eq_none_iff, cutFirst_eq_none, mem_reverse]

/-- **The second part has no `a`.** -/
theorem cutLast_eq_some : cutLast a l = some (x, y) ↔ l = x ++ a :: y ∧ a ∉ y := by
  rw [cutLast, Option.map_eq_some_iff]
  constructor
  · rintro ⟨⟨u, v⟩, hcut, heq⟩
    obtain ⟨rfl, rfl⟩ := Prod.mk.inj heq
    obtain ⟨hl, ha⟩ := cutFirst_eq_some.mp hcut
    have hl := congrArg reverse hl
    rw [reverse_reverse] at hl
    exact ⟨by simpa using hl, by simpa using ha⟩
  · rintro ⟨rfl, ha⟩
    refine ⟨(y.reverse, x.reverse), cutFirst_eq_some.mpr ⟨?_, by simpa using ha⟩, ?_⟩
    · simp
    · simp

theorem exists_rdropWhile_append_replicate (a : α) (l : List α) :
    ∃ n, l = l.rdropWhile (· = a) ++ replicate n a := by
  obtain ⟨n, hn⟩ : ∃ n, l.rtakeWhile (· = a) = replicate n a :=
    ⟨_, eq_replicate_of_mem fun b hb => by simpa using mem_rtakeWhile_imp hb⟩
  refine ⟨n, ?_⟩
  rw [← hn, rdropWhile_append_rtakeWhile]

end List
