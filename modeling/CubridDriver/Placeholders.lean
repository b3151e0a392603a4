import CubridDriver.Interpolate
import CubridDriver.SqlLex

/-!
# Which question marks are placeholders

By the lexical rules of SQL a `?` is a placeholder when it stands in code. The
scanner of `CubridDriver.interpolateParams` knows string literals only, and tells
them by the parity of the quotes before a character. The two agree on a template
that has neither a quoted identifier nor a comment
(`CubridDriver.quoteMarks_eq_placeholderMarks`); in a comment or an identifier, a
`?` is replaced as if it stood in code, and an apostrophe opens a literal that is
not there.

`CubridDriver.interpolateParams_eq_substitutePlaceholders_iff` says exactly when
interpolation substitutes the placeholders and nothing else: as long as a
parameter is left, the parity of the quotes before a `?` must tell whether it is
a placeholder.
-/

namespace CubridDriver

open Template

/-! ### The substitution the lexical rules ask for -/

/-- The template with its placeholders replaced: the `i`-th one by the literal of
the `i`-th parameter, every other character as it is, the placeholders beyond the
parameters included. -/
def substitutePlaceholders (sql : String) (params : List Value) : String :=
  String.ofList (fill (sql.toList.zip (placeholderMarks sql.toList)) (params.map formatChars))

/-- How many placeholders stand before position `i`. -/
def placeholdersBefore (sql : String) (i : ℕ) : ℕ :=
  ((placeholderMarks sql.toList).take i).count true

/-- How many quotes stand before position `i`. -/
def quotesBefore (sql : String) (i : ℕ) : ℕ := (sql.toList.take i).count '\''

/-! ### The scanner's marking and the placeholders -/

/-- Two marked positions of one text agree when the scanner's parity says what
the lexical rules say. Only a `?` can be marked at all. -/
theorem marks_agree_iff {sql : String} {i : ℕ} (hi : i < sql.toList.length) :
    (quoteMarks false sql.toList)[i]? = (placeholderMarks sql.toList)[i]? ↔
      (sql.toList[i]? = some '?' → (quotesBefore sql i % 2 = 0 ↔ IsPlaceholder sql i)) := by
  obtain ⟨b, hb⟩ : ∃ b, (placeholderMarks sql.toList)[i]? = some b :=
    ⟨_, List.getElem?_eq_getElem (by simpa using hi)⟩
  by_cases hq : sql.toList[i]? = some '?'
  · have hmark := quoteMarks_getElem? (b := false) hq
    have hph : b = true ↔ IsPlaceholder sql i := by
      rw [← placeholderMarks_getElem?_eq_true, hb, Option.some_inj]
    rw [hmark, hb, ← hph]
    cases b <;> simp [hq, quotesBefore]
  -- neither marks a character that is no `?`
  · obtain ⟨a, ha⟩ : ∃ a, (quoteMarks false sql.toList)[i]? = some a :=
      ⟨_, List.getElem?_eq_getElem (by simpa using hi)⟩
    have hafalse : a = false := Bool.eq_false_iff.mpr fun h =>
      hq (eq_question_of_quoteMarks (h ▸ ha))
    have hbfalse : b = false := Bool.eq_false_iff.mpr fun h =>
      hq (placeholderMarks_getElem?_eq_true.mp (h ▸ hb)).1
    rw [ha, hb, hafalse, hbfalse]
    exact iff_of_true rfl fun h => absurd h hq

/-- **Interpolation replaces the placeholders, and nothing else, exactly when the
parity of the quotes tells them**: every `?` that comes while a parameter is left
has an even number of quotes before it if and only if it is a placeholder. -/
theorem interpolateParams_eq_substitutePlaceholders_iff (sql : String) (params : List Value) :
    interpolateParams sql params = substitutePlaceholders sql params ↔
      ∀ i : ℕ, sql.toList[i]? = some '?' → placeholdersBefore sql i < params.length →
        (quotesBefore sql i % 2 = 0 ↔ IsPlaceholder sql i) := by
  have htexts : ∀ t ∈ params.map formatChars, ∃ c t', t = c :: t' ∧ c ≠ '?' := by
    intro t ht
    obtain ⟨v, -, rfl⟩ := List.mem_map.mp ht
    exact exists_cons_formatChars v
  have hfill := @fill_eq_fill_iff Char '?' sql.toList (quoteMarks false sql.toList)
    (placeholderMarks sql.toList) (params.map formatChars) (by simp) (by simp)
    (fun _ h => eq_question_of_quoteMarks h)
    (fun _ h => (placeholderMarks_getElem?_eq_true.mp h).1) htexts
  rw [← String.toList_inj, interpolateParams_eq_fill, substitutePlaceholders,
    String.toList_ofList, hfill, List.length_map]
  constructor
  · intro h i hq hlt
    have hi : i < sql.toList.length := (List.getElem?_eq_some_iff.mp hq).1
    exact (marks_agree_iff hi).mp (h i hi hlt) hq
  · exact fun h i hi hlt => (marks_agree_iff hi).mpr fun hq => h i hq hlt

/-- An apostrophe in a comment is taken for the start of a literal, and the
placeholder behind it for a part of that literal. -/
theorem interpolateParams_apostrophe_in_comment :
    interpolateParams "SELECT a -- it's\nFROM t WHERE id = ?" [.int 1] ≠
      substitutePlaceholders "SELECT a -- it's\nFROM t WHERE id = ?" [.int 1] := by
  decide

/-! ### Plain templates -/

/-- A plain template: its only lexical elements are string literals and code. -/
def PlainFrom (x : SqlContext) (cs : List Char) : Prop :=
  ∀ y ∈ contextsFrom x cs, y = .code ∨ y = .literal

/-- **On a plain template the scanner marks the placeholders.** -/
theorem quoteMarks_eq_placeholderMarks {x : SqlContext} {cs : List Char} (h : PlainFrom x cs)
    (hx : x = .code ∨ x = .literal) :
    quoteMarks (x = .literal) cs = marksFrom x cs := by
  unfold PlainFrom at h
  unfold marksFrom
  fun_induction contextsFrom x cs <;> simp_all [quoteMarks]

/-- **On a plain template interpolation does what the lexical rules ask for.** -/
theorem interpolateParams_eq_substitutePlaceholders {sql : String} (params : List Value)
    (h : PlainFrom .code sql.toList) :
    interpolateParams sql params = substitutePlaceholders sql params := by
  rw [← String.toList_inj, interpolateParams_eq_fill, substitutePlaceholders,
    String.toList_ofList]
  have hmarks := quoteMarks_eq_placeholderMarks h (Or.inl rfl)
  rw [show quoteMarks false sql.toList = placeholderMarks sql.toList from hmarks]

end CubridDriver
