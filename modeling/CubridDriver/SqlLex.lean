import Mathlib.Data.List.Basic

/-!
# The lexical structure of SQL text

Two lexers for SQL text, independent of what the driver does with it. They say
what a statement about a SQL text is about.

* `CubridDriver.contextsFrom` follows the lexical rules of CUBRID: string
  literals in single quotes, where `''` is a quote, identifiers in double quotes,
  comments from `--` or `//` to the end of the line, and comments between `/*`
  and `*/`. It labels every character with the context it stands in, the
  delimiters included.
* `CubridDriver.tokensFrom` looks at the quotes only, and decodes what stands
  between them: a text is a sequence of characters and of literals.
-/

namespace CubridDriver

/-! ### Contexts -/

/-- The lexical contexts of SQL text. -/
inductive SqlContext
  /-- Outside everything else. -/
  | code
  /-- In a string literal. -/
  | literal
  /-- In a double-quoted identifier. -/
  | quotedIdentifier
  /-- In a comment that ends with the line. -/
  | lineComment
  /-- In a comment that ends with `*/`. -/
  | blockComment
  deriving DecidableEq, Repr

/-- The context of every character of a text that starts in the given context. A
delimiter belongs to what it delimits. -/
def contextsFrom : SqlContext → List Char → List SqlContext
  | _, [] => []
  | .code, '\'' :: cs => .literal :: contextsFrom .literal cs
  | .code, '"' :: cs => .quotedIdentifier :: contextsFrom .quotedIdentifier cs
  | .code, '-' :: '-' :: cs => .lineComment :: .lineComment :: contextsFrom .lineComment cs
  | .code, '/' :: '/' :: cs => .lineComment :: .lineComment :: contextsFrom .lineComment cs
  | .code, '/' :: '*' :: cs => .blockComment :: .blockComment :: contextsFrom .blockComment cs
  | .code, _ :: cs => .code :: contextsFrom .code cs
  | .literal, '\'' :: '\'' :: cs => .literal :: .literal :: contextsFrom .literal cs
  | .literal, '\'' :: cs => .literal :: contextsFrom .code cs
  | .literal, _ :: cs => .literal :: contextsFrom .literal cs
  | .quotedIdentifier, '"' :: cs => .quotedIdentifier :: contextsFrom .code cs
  | .quotedIdentifier, _ :: cs => .quotedIdentifier :: contextsFrom .quotedIdentifier cs
  | .lineComment, '\n' :: cs => .lineComment :: contextsFrom .code cs
  | .lineComment, _ :: cs => .lineComment :: contextsFrom .lineComment cs
  | .blockComment, '*' :: '/' :: cs => .blockComment :: .blockComment :: contextsFrom .code cs
  | .blockComment, _ :: cs => .blockComment :: contextsFrom .blockComment cs

/-- The context of every character of a SQL text. -/
def sqlContexts (sql : String) : List SqlContext := contextsFrom .code sql.toList

@[simp] theorem length_contextsFrom (x : SqlContext) (cs : List Char) :
    (contextsFrom x cs).length = cs.length := by
  fun_induction contextsFrom x cs <;> simp_all

/-- The two characters open a comment, in code. -/
def OpensComment (c d : Char) : Prop := c = '-' ∧ d = '-' ∨ c = '/' ∧ (d = '/' ∨ d = '*')

/-- **A character that opens nothing is code**, and the text goes on in code. -/
theorem contextsFrom_code_cons {c : Char} {cs : List Char} (hc : c ≠ '\'' ∧ c ≠ '"')
    (h : ∀ d ∈ cs.head?, ¬OpensComment c d) :
    contextsFrom .code (c :: cs) = .code :: contextsFrom .code cs := by
  rw [contextsFrom]
  · exact hc.1
  · exact hc.2
  · rintro ds rfl rfl
    exact h '-' (by simp) (Or.inl ⟨rfl, rfl⟩)
  · rintro ds rfl rfl
    exact h '/' (by simp) (Or.inr ⟨rfl, Or.inl rfl⟩)
  · rintro ds rfl rfl
    exact h '*' (by simp) (Or.inr ⟨rfl, Or.inr rfl⟩)

/-- A quote that no other quote follows closes its literal. -/
theorem contextsFrom_literal_quote {cs : List Char} (h : cs.head? ≠ some '\'') :
    contextsFrom .literal ('\'' :: cs) = .literal :: contextsFrom .code cs := by
  rw [contextsFrom]
  rintro ds rfl
  exact h rfl

/-- A character other than a quote continues its literal. -/
theorem contextsFrom_literal_cons {c : Char} {cs : List Char} (h : c ≠ '\'') :
    contextsFrom .literal (c :: cs) = .literal :: contextsFrom .literal cs := by
  rw [contextsFrom]
  · exact fun _ hc _ => h hc
  · exact h

/-! ### Placeholders -/

/-- The question marks in code, as a marking of a text that starts in the given
context. -/
def marksFrom (x : SqlContext) (cs : List Char) : List Bool :=
  List.zipWith (fun c y => decide (c = '?' ∧ y = .code)) cs (contextsFrom x cs)

@[simp] theorem length_marksFrom (x : SqlContext) (cs : List Char) :
    (marksFrom x cs).length = cs.length := by
  simp [marksFrom]

/-- The placeholders of a text, as a marking: the question marks in code. -/
def placeholderMarks (cs : List Char) : List Bool := marksFrom .code cs

@[simp] theorem length_placeholderMarks (cs : List Char) :
    (placeholderMarks cs).length = cs.length := length_marksFrom .code cs

/-- The character at position `i` is a placeholder: a `?` outside every string
literal, quoted identifier and comment. -/
def IsPlaceholder (sql : String) (i : ℕ) : Prop :=
  sql.toList[i]? = some '?' ∧ (sqlContexts sql)[i]? = some .code

theorem placeholderMarks_getElem?_eq_true {sql : String} {i : ℕ} :
    (placeholderMarks sql.toList)[i]? = some true ↔ IsPlaceholder sql i := by
  simp only [placeholderMarks, marksFrom, List.getElem?_zipWith_eq_some, IsPlaceholder, sqlContexts]
  constructor
  · rintro ⟨c, x, hc, hx, h⟩
    obtain ⟨rfl, rfl⟩ := of_decide_eq_true h
    exact ⟨hc, hx⟩
  · rintro ⟨hc, hx⟩
    exact ⟨_, _, hc, hx, rfl⟩

/-! ### Literals and their contents -/

/-- A token at the quote level. -/
inductive SqlToken
  /-- A character outside the literals. -/
  | char (c : Char)
  /-- A literal with its decoded content. It is not closed when the text ends
  inside it. -/
  | literal (content : List Char) (closed : Bool)
  deriving DecidableEq, Repr

/-- The tokens of a text, at the quote level: a literal runs from a `'` to the
next unpaired `'`, and `''` inside it stands for one quote. The first argument is
the content read so far when the text starts in a literal. -/
def tokensFrom : Option (List Char) → List Char → List SqlToken
  | none, [] => []
  | none, '\'' :: cs => tokensFrom (some []) cs
  | none, c :: cs => .char c :: tokensFrom none cs
  | some s, [] => [.literal s false]
  | some s, '\'' :: '\'' :: cs => tokensFrom (some (s ++ ['\''])) cs
  | some s, '\'' :: cs => .literal s true :: tokensFrom none cs
  | some s, c :: cs => tokensFrom (some (s ++ [c])) cs

/-- The tokens of a SQL text. -/
def sqlTokens (sql : String) : List SqlToken := tokensFrom none sql.toList

/-- A character other than a quote is a token of its own, outside the literals. -/
theorem tokensFrom_none_cons {c : Char} {cs : List Char} (h : c ≠ '\'') :
    tokensFrom none (c :: cs) = .char c :: tokensFrom none cs := by
  rw [tokensFrom]
  exact h

/-- A quote that no other quote follows ends its literal. -/
theorem tokensFrom_some_quote {s cs : List Char} (h : cs.head? ≠ some '\'') :
    tokensFrom (some s) ('\'' :: cs) = .literal s true :: tokensFrom none cs := by
  rw [tokensFrom]
  rintro ds rfl
  exact h rfl

/-- A character other than a quote belongs to its literal. -/
theorem tokensFrom_some_cons {c : Char} {s cs : List Char} (h : c ≠ '\'') :
    tokensFrom (some s) (c :: cs) = tokensFrom (some (s ++ [c])) cs := by
  rw [tokensFrom]
  · exact fun _ hc _ => h hc
  · exact h

end CubridDriver
