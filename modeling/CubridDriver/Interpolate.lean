import CubridDriver.Types
import CubridDriver.Lib.Template
import CubridDriver.Lib.NumText

/-!
# Client-side parameter interpolation

The driver sends no bind parameters with `PrepareAndExecute`: it writes them
into the SQL text. `CubridDriver.interpolateParams` scans the text once and
replaces every `?` it meets by the literal `CubridDriver.formatValue` makes of
the next parameter, except inside single quotes, which it copies through. Both
clients, the blocking and the asynchronous one, carry this function.

The scanner of the source is two nested loops over one iterator: the outer one
looks at a character, and on a `'` the inner one copies up to the next `'`. The
control location – in the inner loop or not – is the Boolean of
`CubridDriver.interpolateGo`.

`CubridDriver.interpolateParams_eq_fill` separates the two things it does: which
`?` it takes for a placeholder, the marking `CubridDriver.quoteMarks`, and the
substitution, which is the filling of a template. By
`CubridDriver.quoteMarks_getElem?` the marking is a matter of parity: a `?` is
taken exactly when an even number of `'` stands before it.
-/

namespace CubridDriver

open Template NumText

/-! ### Literals -/

/-- The text of a `Value` as a SQL literal. -/
def formatChars : Value → List Char
  | .null => ['N', 'U', 'L', 'L']
  | .bool v => [if v then '1' else '0']
  | .short v => intText v.toInt
  | .int v => intText v.toInt
  | .long v => intText v.toInt
  | .float bits => floatText binary32 bits.toNat
  | .double bits => floatText binary64 bits.toNat
  | .string v =>
      '\'' :: (v.toList.flatMap fun c => if c = '\'' then ['\'', '\''] else [c]) ++ ['\'']
  | .bytes v => 'X' :: '\'' :: v.flatMap hexText ++ ['\'']
  | .date year month day =>
      "DATE'".toList ++ dateChars year month day ++ ['\'']
  | .time hour minute second =>
      "TIME'".toList ++ timeChars hour minute second ++ ['\'']
  | .timestamp year month day hour minute second =>
      "TIMESTAMP'".toList ++ dateChars year month day ++ ' ' :: timeChars hour minute second ++
        ['\'']
  | .datetime year month day hour minute second ms =>
      "DATETIME'".toList ++ dateChars year month day ++ ' ' :: timeChars hour minute second ++
        '.' :: paddedText 3 ms.toInt ++ ['\'']
where
  /-- `{year:04}-{month:02}-{day:02}`. -/
  dateChars (year month day : Int16) : List Char :=
    paddedText 4 year.toInt ++ '-' :: paddedText 2 month.toInt ++ '-' :: paddedText 2 day.toInt
  /-- `{hour:02}:{minute:02}:{second:02}`. -/
  timeChars (hour minute second : Int16) : List Char :=
    paddedText 2 hour.toInt ++ ':' :: paddedText 2 minute.toInt ++ ':' :: paddedText 2 second.toInt

/-- A string is written with its quotes doubled. -/
theorem formatChars_string (v : String) : formatChars (.string v) =
    '\'' :: (v.toList.flatMap fun c => if c = '\'' then ['\'', '\''] else [c]) ++ ['\''] := rfl

/-- Format a `Value` as a SQL literal. -/
def formatValue (v : Value) : String := String.ofList (formatChars v)

/-- **No literal is empty or begins with a question mark**, so a substituted
placeholder can be told from one that was left in place. -/
theorem exists_cons_formatChars (v : Value) : ∃ c t, formatChars v = c :: t ∧ c ≠ '?' := by
  have hint : ∀ i : ℤ, ∃ c t, intText i = c :: t ∧ c ≠ '?' := by
    intro i
    rcases intText_cases i with ⟨d, ds, hdigit, ⟨-, h⟩ | ⟨-, h⟩⟩
    · exact ⟨_, _, h, by decide⟩
    · refine ⟨d, ds, h, ?_⟩
      rintro rfl
      exact absurd (hdigit '?' (by simp)) (by decide)
  cases v with
  | bool v => exact ⟨if v then '1' else '0', [], rfl, by cases v <;> decide⟩
  | short v => exact hint _
  | int v => exact hint _
  | long v => exact hint _
  | float bits => exact exists_cons_floatText _ _
  | double bits => exact exists_cons_floatText _ _
  | _ => exact ⟨_, _, rfl, by decide⟩

/-! ### The scanner -/

/-- The two loops of the scanner. `inLiteral` says that control is in the inner
loop, which copies a string literal; `paramIdx` is the next parameter. -/
def interpolateGo (params : List Value) (inLiteral : Bool) : List Char → ℕ → List Char
  | [], _ => []
  | ch :: chars, paramIdx =>
      if inLiteral then ch :: interpolateGo params (ch ≠ '\'') chars paramIdx
      else if h : ch = '?' ∧ paramIdx < params.length then
        formatChars params[paramIdx] ++ interpolateGo params false chars (paramIdx + 1)
      else if ch = '\'' then ch :: interpolateGo params true chars paramIdx
      else ch :: interpolateGo params false chars paramIdx

/-- Interpolate bind parameters into the SQL string: replace `?` placeholders
with escaped literal values. -/
def interpolateParams (sql : String) (params : List Value) : String :=
  if params.isEmpty then sql else String.ofList (interpolateGo params false sql.toList 0)

example : interpolateParams "SELECT * FROM t WHERE name = '?' AND id = ?" [.int 1] =
    "SELECT * FROM t WHERE name = '?' AND id = 1" := by decide

/-! ### Which question marks are replaced -/

/-- The `?` the scanner takes for a placeholder, as a marking of the text. -/
def quoteMarks (inLiteral : Bool) : List Char → List Bool
  | [] => []
  | ch :: chars =>
      (!inLiteral && ch = '?') :: quoteMarks (if ch = '\'' then !inLiteral else inLiteral) chars

@[simp] theorem length_quoteMarks (b : Bool) (cs : List Char) :
    (quoteMarks b cs).length = cs.length := by
  induction cs generalizing b with
  | nil => rfl
  | cons c cs ih => simp [quoteMarks, ih]

/-- Only question marks are taken for placeholders. -/
theorem eq_question_of_quoteMarks {b : Bool} {cs : List Char} {i : ℕ}
    (h : (quoteMarks b cs)[i]? = some true) : cs[i]? = some '?' := by
  induction cs generalizing b i with
  | nil => simp [quoteMarks] at h
  | cons c cs ih =>
    cases i with
    | zero =>
      have hc : b = false ∧ c = '?' := by simpa [quoteMarks] using h
      simp [hc.2]
    | succ i => simpa using ih (by simpa [quoteMarks] using h)

/-- **A `?` is taken for a placeholder exactly when an even number of `'` stands
before it** – counting the quote the scanner has already met when it starts in a
literal. -/
theorem quoteMarks_getElem? {b : Bool} {cs : List Char} {i : ℕ} (h : cs[i]? = some '?') :
    (quoteMarks b cs)[i]? = some (decide (((cs.take i).count '\'' + b.toNat) % 2 = 0)) := by
  induction cs generalizing b i with
  | nil => simp at h
  | cons c cs ih =>
    cases i with
    | zero =>
      obtain rfl : c = '?' := by simpa using h
      cases b <;> rfl
    | succ i =>
      have hi : cs[i]? = some '?' := by simpa using h
      rw [quoteMarks, List.getElem?_cons_succ, ih hi, List.take_succ_cons, List.count_cons]
      by_cases hc : c = '\''
      · cases b
        · simp [hc]
        · simp [hc]
          omega
      · simp [hc]

/-- The scanner fills the template it marks. -/
theorem interpolateGo_eq_fill (params : List Value) (b : Bool) (cs : List Char) (idx : ℕ) :
    interpolateGo params b cs idx =
      fill (cs.zip (quoteMarks b cs)) ((params.drop idx).map formatChars) := by
  induction cs generalizing b idx with
  | nil => simp [interpolateGo]
  | cons c cs ih =>
    rw [interpolateGo, quoteMarks, List.zip_cons_cons]
    cases b with
    | true => by_cases hc : c = '\'' <;> simp [hc, ih]
    | false =>
      by_cases hq : c = '?'
      -- a `?` outside the quotes takes the next parameter, if there is one
      · by_cases hidx : idx < params.length
        · rw [List.drop_eq_getElem_cons hidx, List.map_cons]
          simp [hq, hidx, ih]
        · have ih' := ih false idx
          rw [List.drop_eq_nil_of_le (by omega), List.map_nil] at ih' ⊢
          simp [hq, hidx, ih']
      · by_cases hc : c = '\'' <;> simp [hq, hc, ih]

/-- **Interpolation fills the template the scanner marks** with the literals of
the parameters. -/
theorem interpolateParams_eq_fill (sql : String) (params : List Value) :
    (interpolateParams sql params).toList =
      fill (sql.toList.zip (quoteMarks false sql.toList)) (params.map formatChars) := by
  rw [interpolateParams]
  cases params with
  | nil => simp [fill_no_text, List.map_fst_zip]
  | cons p ps => simp [interpolateGo_eq_fill]

end CubridDriver
