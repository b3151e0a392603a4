import CubridDriver.Interpolate
import CubridDriver.SqlLex
import Mathlib.Data.List.Chain

/-!
# Strings stay in their quotes

A string parameter is written as a literal with its quotes doubled. Read back at
the quote level, `CubridDriver.sqlTokens`, the literal gives the string, provided
no quote of the template touches it: a quote next to the literal would join with
the one that delimits it.

`CubridDriver.sqlTokens_interpolateParams` is the statement for a whole template
whose placeholders stand apart: the tokens of the interpolated text are those of
the template, with a literal in place of each placeholder that gets a string. So
no string ends its literal early, none is scanned for placeholders, and no token
of the template changes.
-/

namespace CubridDriver

open Template

/-! ### Placeholders that stand apart -/

/-- The token that a placeholder is: a `?` outside the literals. -/
def SqlToken.placeholder : SqlToken := .char '?'

/-- A literal. -/
def SqlToken.isLiteral : SqlToken → Bool
  | .char _ => false
  | .literal _ _ => true

/-- Two neighbouring tokens stand apart when a placeholder meets neither a literal
nor another placeholder. -/
def SqlToken.Apart (a b : SqlToken) : Prop :=
  (a = .placeholder → b ≠ .placeholder ∧ b.isLiteral = false) ∧
    (b = .placeholder → a.isLiteral = false)

instance : DecidableRel SqlToken.Apart := fun _ _ => inferInstanceAs (Decidable (_ ∧ _))

/-- A template in which no placeholder is directly next to a quote or to another
placeholder. -/
def ApartPlaceholders (ts : List SqlToken) : Prop := ts.IsChain SqlToken.Apart

instance (ts : List SqlToken) : Decidable (ApartPlaceholders ts) :=
  inferInstanceAs (Decidable (ts.IsChain SqlToken.Apart))

/-- The tokens with their placeholders filled: the `i`-th one by a literal with
the `i`-th string as its content, the surplus ones left as they are. -/
def fillPlaceholders (ts : List SqlToken) (strings : List String) : List SqlToken :=
  fill (ts.map fun t => (t, decide (t = .placeholder)))
    (strings.map fun s => [.literal s.toList true])

/-! ### Reading a string literal back -/

/-- **The quotes of a string are doubled, so the literal decodes to the string** –
unless what follows is a quote, which would join with the closing one. -/
theorem tokensFrom_doubled (s acc cs : List Char) (hcs : cs.head? ≠ some '\'') :
    tokensFrom (some acc)
        ((s.flatMap fun c => if c = '\'' then ['\'', '\''] else [c]) ++ '\'' :: cs) =
      .literal (acc ++ s) true :: tokensFrom none cs := by
  induction s generalizing acc with
  | nil => simpa using tokensFrom_some_quote hcs
  | cons c s ih =>
    rw [List.flatMap_cons]
    by_cases hc : c = '\''
    · subst hc
      rw [if_pos rfl, List.append_assoc, List.cons_append, List.cons_append, List.nil_append,
        tokensFrom, ih, List.append_assoc]
      rfl
    · rw [if_neg hc, List.append_assoc, List.cons_append, List.nil_append,
        tokensFrom_some_cons hc, ih, List.append_assoc]
      rfl

/-- The literal of a string parameter is one token. -/
theorem tokensFrom_formatChars_string (s : String) {cs : List Char} (hcs : cs.head? ≠ some '\'') :
    tokensFrom none (formatChars (.string s) ++ cs) =
      .literal s.toList true :: tokensFrom none cs := by
  have h := tokensFrom_doubled s.toList [] cs hcs
  rw [List.nil_append] at h
  rw [formatChars_string, List.cons_append, List.cons_append, List.append_assoc, tokensFrom]
  exact h

/-! ### What comes to stand behind a token -/

/-- A text that starts in a literal has a literal as its first token. -/
theorem exists_literal_tokensFrom_some (s cs : List Char) :
    ∃ content closed ts, tokensFrom (some s) cs = .literal content closed :: ts := by
  generalize ho : some s = o
  fun_induction tokensFrom o cs generalizing s <;> simp_all

/-- A quote is the start of a literal. -/
theorem exists_literal_of_head {cs : List Char} (h : cs.head? = some '\'') :
    ∃ content closed, (tokensFrom none cs).head? = some (.literal content closed) := by
  obtain ⟨ds, rfl⟩ := List.head?_eq_some_iff.mp h
  obtain ⟨content, closed, ts, hts⟩ := exists_literal_tokensFrom_some [] ds
  exact ⟨content, closed, by rw [tokensFrom, hts]; rfl⟩

/-- A `?` outside the literals is a placeholder. -/
theorem placeholder_of_head {cs : List Char} (h : cs.head? = some '?') :
    (tokensFrom none cs).head? = some .placeholder := by
  obtain ⟨ds, rfl⟩ := List.head?_eq_some_iff.mp h
  rw [tokensFrom_none_cons (by decide)]
  rfl

/-- The characters the scanner writes for a text that starts in a literal or not. -/
def writtenFrom (inLiteral : Bool) (cs : List Char) (strings : List String) : List Char :=
  fill (cs.zip (quoteMarks inLiteral cs)) ((strings.map Value.string).map formatChars)

section Head

variable {cs : List Char} {strings : List String}

/-- Before a character that is no placeholder the scanner writes nothing. -/
theorem head?_written_of_ne (h : cs.head? ≠ some '?') :
    (writtenFrom false cs strings).head? = cs.head? := by
  cases cs with
  | nil => rfl
  | cons c cs =>
    have hc : c ≠ '?' := by simpa using h
    simp [writtenFrom, quoteMarks, hc]

/-- No quote comes to stand behind a literal of a template whose placeholders stand
apart. -/
theorem head?_written_behind_literal {s : List Char} {closed : Bool}
    (h : ApartPlaceholders (.literal s closed :: tokensFrom none cs))
    (hcs : cs.head? ≠ some '\'') :
    (writtenFrom false cs strings).head? ≠ some '\'' := by
  have hne : cs.head? ≠ some '?' := fun hq => by
    have happart := List.IsChain.rel_head? h (placeholder_of_head hq)
    exact Bool.noConfusion (happart.2 rfl)
  rwa [head?_written_of_ne hne]

/-- No quote comes to stand behind a placeholder of such a template. -/
theorem head?_written_behind_placeholder
    (h : ApartPlaceholders (.placeholder :: tokensFrom none cs)) :
    (writtenFrom false cs strings).head? ≠ some '\'' := by
  have hne : cs.head? ≠ some '?' := fun hq => by
    have happart := List.IsChain.rel_head? h (placeholder_of_head hq)
    exact (happart.1 rfl).1 rfl
  rw [head?_written_of_ne hne]
  intro hq
  obtain ⟨s, closed, hs⟩ := exists_literal_of_head hq
  have happart := List.IsChain.rel_head? h hs
  exact Bool.noConfusion (happart.1 rfl).2

end Head

/-! ### The tokens of an interpolated template -/

section Step

variable {cs : List Char} {strings : List String}

/-- A token that is no placeholder, or for which no string is left, stays. -/
theorem fillPlaceholders_keep {t : SqlToken} {ts : List SqlToken}
    (h : t = .placeholder → strings = []) :
    fillPlaceholders (t :: ts) strings = t :: fillPlaceholders ts strings :=
  fill_of_keep fun ht => by rw [h (of_decide_eq_true ht), List.map_nil]

/-- **The step at a character outside the literals.** -/
theorem tokensFrom_written_char {c : Char} (hc : c ≠ '\'')
    (h : ApartPlaceholders (.char c :: tokensFrom none cs))
    (ih : ∀ strings, tokensFrom none (writtenFrom false cs strings) =
      fillPlaceholders (tokensFrom none cs) strings) :
    tokensFrom none (writtenFrom false (c :: cs) strings) =
      fillPlaceholders (.char c :: tokensFrom none cs) strings := by
  by_cases hkeep : c = '?' → strings = []
  · have hwritten : writtenFrom false (c :: cs) strings = c :: writtenFrom false cs strings := by
      rw [writtenFrom, quoteMarks, if_neg hc, List.zip_cons_cons]
      refine fill_of_keep fun hmark => ?_
      rw [hkeep (by simpa using hmark), List.map_nil, List.map_nil]
    rw [hwritten, tokensFrom_none_cons hc, ih, fillPlaceholders_keep]
    rintro ht
    exact hkeep (SqlToken.char.inj ht)
  -- a placeholder gets a string: its literal is one token, since no quote follows
  · obtain ⟨rfl, hne⟩ := Classical.not_imp.mp hkeep
    obtain ⟨s, strings, rfl⟩ := List.exists_cons_of_ne_nil hne
    have hwritten : writtenFrom false ('?' :: cs) (s :: strings) =
        formatChars (.string s) ++ writtenFrom false cs strings := rfl
    rw [hwritten, tokensFrom_formatChars_string s (head?_written_behind_placeholder h), ih]
    rfl

/-- **The step at the quote that closes a literal.** -/
theorem tokensFrom_written_close {acc : List Char} (hcs : cs.head? ≠ some '\'')
    (h : ApartPlaceholders (.literal acc true :: tokensFrom none cs))
    (ih : ∀ strings, tokensFrom none (writtenFrom false cs strings) =
      fillPlaceholders (tokensFrom none cs) strings) :
    tokensFrom (some acc) (writtenFrom true ('\'' :: cs) strings) =
      fillPlaceholders (.literal acc true :: tokensFrom none cs) strings := by
  have hwritten : writtenFrom true ('\'' :: cs) strings = '\'' :: writtenFrom false cs strings :=
    rfl
  rw [hwritten, tokensFrom_some_quote (head?_written_behind_literal h hcs), ih,
    fillPlaceholders_keep (by simp [SqlToken.placeholder])]

end Step

/-- **What is read back from what the scanner writes**, from either of its control
locations. The induction is on the lexer that reads the template. -/
theorem tokensFrom_written (o : Option (List Char)) (cs : List Char) (strings : List String)
    (h : ApartPlaceholders (tokensFrom o cs)) :
    tokensFrom o (writtenFrom o.isSome cs strings) =
      fillPlaceholders (tokensFrom o cs) strings := by
  fun_induction tokensFrom o cs generalizing strings with
  | case1 => rfl
  | case2 cs ih => exact ih strings h
  | case3 c cs hc ih =>
    exact tokensFrom_written_char hc h fun strings => ih strings (List.IsChain.tail h)
  | case4 s =>
    rw [fillPlaceholders_keep (by simp [SqlToken.placeholder])]
    rfl
  | case5 s cs ih => exact ih strings h
  | case6 s cs hcs ih =>
    refine tokensFrom_written_close (fun hhead => ?_) h fun strings =>
      ih strings (List.IsChain.tail h)
    obtain ⟨ds, rfl⟩ := List.head?_eq_some_iff.mp hhead
    exact hcs ds rfl
  | case7 s c cs hdouble hc ih =>
    have hwritten : writtenFrom true (c :: cs) strings = c :: writtenFrom true cs strings := by
      rw [writtenFrom, quoteMarks, if_neg hc]
      rfl
    rw [Option.isSome_some, hwritten, tokensFrom_some_cons hc]
    exact ih strings h

/-- **String parameters stay in their quotes.** In a template whose placeholders
stand apart, the interpolated text has the tokens of the template with a literal in
place of each placeholder that gets a string. -/
theorem sqlTokens_interpolateParams (sql : String) (strings : List String)
    (h : ApartPlaceholders (sqlTokens sql)) :
    sqlTokens (interpolateParams sql (strings.map .string)) =
      fillPlaceholders (sqlTokens sql) strings := by
  rw [sqlTokens, interpolateParams_eq_fill]
  exact tokensFrom_written none sql.toList strings h

/-- A string full of quotes and question marks, and a question mark in a literal of
the template. -/
theorem sqlTokens_interpolateParams_quotes :
    sqlTokens (interpolateParams "a=? OR '?'" (["' OR ?='"].map .string)) =
      fillPlaceholders (sqlTokens "a=? OR '?'") ["' OR ?='"] :=
  sqlTokens_interpolateParams _ _ (by decide)

end CubridDriver
