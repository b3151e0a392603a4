import CubridDriver.SqlItems
import CubridDriver.Lib.FieldText

/-!
# The values of literals

What a database reads a literal as: `CubridDriver.readLiteral` takes the items of a literal, by
the word in front of a quoted one. The types with quotes hold numbers with separators, except
for the strings, which hold themselves, and for the bytes.

By `CubridDriver.readLiteral_formatValue` the text of a parameter is read as the value that the
parameter stands for. Of the binary floating-point numbers nothing is said here.
-/

namespace CubridDriver

open NumText

/-! ### Values -/

/-- A value of the database. -/
inductive SqlValue
  | null
  | integer (i : ℤ)
  | string (s : List Char)
  | bytes (v : List UInt8)
  /-- Year, month and day. -/
  | date (fields : List ℤ)
  /-- Hour, minute and second. -/
  | time (fields : List ℤ)
  /-- A date, and then a time. -/
  | timestamp (fields : List ℤ)
  /-- A timestamp, and then the milliseconds. -/
  | datetime (fields : List ℤ)
  deriving DecidableEq, Repr

/-- The value that a parameter stands for. A truth value is sent as a number. -/
def Value.meaning : Value → Option SqlValue
  | .null => some .null
  | .bool v => some (.integer (if v then 1 else 0))
  | .short v => some (.integer v.toInt)
  | .int v => some (.integer v.toInt)
  | .long v => some (.integer v.toInt)
  | .float _ | .double _ => none
  | .string v => some (.string v.toList)
  | .bytes v => some (.bytes v)
  | .date year month day => some (.date [year.toInt, month.toInt, day.toInt])
  | .time hour minute second => some (.time [hour.toInt, minute.toInt, second.toInt])
  | .timestamp year month day hour minute second =>
      some (.timestamp [year.toInt, month.toInt, day.toInt, hour.toInt, minute.toInt,
        second.toInt])
  | .datetime year month day hour minute second ms =>
      some (.datetime [year.toInt, month.toInt, day.toInt, hour.toInt, minute.toInt,
        second.toInt, ms.toInt])

/-! ### Reading -/

/-- Read an integer. -/
def readInteger (text : List Char) : Option SqlValue :=
  (readFields [] text).bind fun is => is.head?.map .integer

/-- Read a quoted literal, by the word in front of it. -/
def readQuoted (kind content : List Char) : Option SqlValue :=
  if kind = [] then some (.string content)
  else if kind = "X".toList then (readHex content).map .bytes
  else if kind = "DATE".toList then (readFields "--".toList content).map .date
  else if kind = "TIME".toList then (readFields "::".toList content).map .time
  else if kind = "TIMESTAMP".toList then (readFields "-- ::".toList content).map .timestamp
  else if kind = "DATETIME".toList then (readFields "-- ::.".toList content).map .datetime
  else none

/-- Read the items of a literal. -/
def readLiteral : List SqlItem → Option SqlValue
  | [.word w] => if w = "NULL".toList then some .null else readInteger w
  | [.char '-', .word w] => readInteger ('-' :: w)
  | [.literal kind content] => readQuoted kind content
  | _ => none

/-! ### Reading the parameters -/

theorem readInteger_intText (i : ℤ) : readInteger (intText i) = some (.integer i) := by
  have hread := readFields_fieldsText (0, i) [] nofun
  rw [readInteger, intText_eq_paddedText]
  exact congrArg (Option.bind · _) hread

/-- **An integer is read back**, be it one word or two items. -/
theorem readLiteral_integer (i : ℤ) :
    readLiteral (numberItems (intText i)) = some (.integer i) := by
  have hread := readInteger_intText i
  obtain ⟨d, ds, hdigits, ⟨-, htext⟩ | ⟨-, htext⟩⟩ := intText_cases i
  · rw [htext] at hread ⊢
    exact hread
  · rw [htext] at hread ⊢
    have hd : d.isDigit = true := hdigits d List.mem_cons_self
    have hitems : numberItems (d :: ds) = [.word (d :: ds)] := by
      rw [numberItems]
      rintro w hw
      rw [(List.cons.inj hw).1] at hd
      exact absurd hd (by decide)
    have hnull : d :: ds ≠ "NULL".toList := by
      intro hw
      have hN : d = 'N' := (List.cons.inj hw).1
      rw [hN] at hd
      exact absurd hd (by decide)
    rw [hitems, readLiteral, if_neg hnull]
    exact hread

section Moments

variable (year month day hour minute second ms : Int16)

theorem readFields_date : readFields "--".toList (formatChars.dateChars year month day) =
    some [year.toInt, month.toInt, day.toInt] := by
  have hread := readFields_fieldsText (4, year.toInt)
    [('-', 2, month.toInt), ('-', 2, day.toInt)] (by simp)
  rw [formatChars.dateChars, List.append_assoc]
  exact hread

theorem readFields_time : readFields "::".toList (formatChars.timeChars hour minute second) =
    some [hour.toInt, minute.toInt, second.toInt] := by
  have hread := readFields_fieldsText (2, hour.toInt)
    [(':', 2, minute.toInt), (':', 2, second.toInt)] (by simp)
  rw [formatChars.timeChars, List.append_assoc]
  exact hread

theorem readFields_timestamp :
    readFields "-- ::".toList (formatChars.dateChars year month day ++
        ' ' :: formatChars.timeChars hour minute second) =
      some [year.toInt, month.toInt, day.toInt, hour.toInt, minute.toInt, second.toInt] := by
  have hread := readFields_fieldsText (4, year.toInt)
    [('-', 2, month.toInt), ('-', 2, day.toInt), (' ', 2, hour.toInt), (':', 2, minute.toInt),
      (':', 2, second.toInt)] (by simp)
  simp only [fieldsText] at hread
  simp only [formatChars.dateChars, formatChars.timeChars, List.append_assoc, List.cons_append]
  exact hread

theorem readFields_datetime :
    readFields "-- ::.".toList (formatChars.dateChars year month day ++
        ' ' :: formatChars.timeChars hour minute second ++ '.' :: paddedText 3 ms.toInt) =
      some [year.toInt, month.toInt, day.toInt, hour.toInt, minute.toInt, second.toInt,
        ms.toInt] := by
  have hread := readFields_fieldsText (4, year.toInt)
    [('-', 2, month.toInt), ('-', 2, day.toInt), (' ', 2, hour.toInt), (':', 2, minute.toInt),
      (':', 2, second.toInt), ('.', 3, ms.toInt)] (by simp)
  simp only [fieldsText] at hread
  simp only [formatChars.dateChars, formatChars.timeChars, List.append_assoc, List.cons_append]
  exact hread

end Moments

/-- The items of a parameter are read as its value. -/
theorem readLiteral_items {v : Value} {x : SqlValue} (h : v.meaning = some x) :
    readLiteral v.items = some x := by
  cases v with
  | float bits => cases h
  | double bits => cases h
  | null => exact h
  | bool v =>
    rw [← h]
    cases v <;> rfl
  | short v => exact (readLiteral_integer _).trans h
  | int v => exact (readLiteral_integer _).trans h
  | long v => exact (readLiteral_integer _).trans h
  | string v => exact h
  | bytes v => exact (congrArg (Option.map _) (readHex_hexText v)).trans h
  | date year month day =>
    exact (congrArg (Option.map _) (readFields_date year month day)).trans h
  | time hour minute second =>
    exact (congrArg (Option.map _) (readFields_time hour minute second)).trans h
  | timestamp year month day hour minute second =>
    exact (congrArg (Option.map _) (readFields_timestamp year month day hour minute second)).trans h
  | datetime year month day hour minute second ms =>
    exact (congrArg (Option.map _)
      (readFields_datetime year month day hour minute second ms)).trans h

/-- **A literal means its value**: the text of a parameter, read by the lexer, is read as the
value that the parameter stands for. -/
theorem readLiteral_formatValue {v : Value} {x : SqlValue} (h : v.meaning = some x) :
    readLiteral (sqlItems (formatValue v)) = some x := by
  have hitems : sqlItems (formatValue v) = v.items := by
    rw [sqlItems, formatValue, String.toList_ofList, ← List.append_nil (formatChars v),
      (means_formatChars v).run (by simp)]
    exact List.append_nil _
  rw [hitems]
  exact readLiteral_items h

/-- A date before the year zero. -/
theorem readLiteral_formatValue_date :
    readLiteral (sqlItems (formatValue (.date (-12) 3 4))) = some (.date [-12, 3, 4]) :=
  readLiteral_formatValue rfl

end CubridDriver
