import CubridDriver.Lib.NumText
import CubridDriver.Lib.ParseInt

/-!
# Numbers in a row

A date is written as numbers with separators between them, each number filled up with zeros.
`NumText.readFields` reads such a text, with the separators it is told: a number goes on as long
as digits follow, and a minus sign in front of it is its own, also when the separator is one.

By `NumText.readFields_fieldsText` the numbers are read back from their text, whatever they are,
as long as no separator is a digit.
-/

namespace NumText

open ParseInt

/-! ### Writing -/

/-- A number with its width, and the others, each with the separator in front of it. -/
def fieldsText : ℕ × ℤ → List (Char × ℕ × ℤ) → List Char
  | (width, i), [] => paddedText width i
  | (width, i), (separator, field) :: fields =>
      paddedText width i ++ separator :: fieldsText field fields

/-! ### Reading -/

/-- Read digits, as many as there are. -/
def readDigits (cs : List Char) : Option (ℕ × List Char) :=
  if cs.takeWhile Char.isDigit = [] then none
  else some (Nat.ofDigitChars 10 (cs.takeWhile Char.isDigit) 0, cs.dropWhile Char.isDigit)

/-- Read a number: perhaps a minus sign, and then digits. -/
def readNumber : List Char → Option (ℤ × List Char)
  | '-' :: cs => (readDigits cs).map fun r => (-(r.1 : ℤ), r.2)
  | cs => (readDigits cs).map fun r => ((r.1 : ℤ), r.2)

/-- Read numbers with the given separators between them, up to the end of the text. -/
def readFields : List Char → List Char → Option (List ℤ)
  | [], cs => (readNumber cs).bind fun r => if r.2 = [] then some [r.1] else none
  | separator :: separators, cs =>
      (readNumber cs).bind fun r =>
        if r.2.head? = some separator then (readFields separators r.2.tail).map (r.1 :: ·)
        else none

/-- Read bytes, each from its two hexadecimal digits. -/
def readHex : List Char → Option (List UInt8)
  | [] => some []
  | [_] => none
  | c :: d :: cs =>
      (digitValue 16 c).bind fun x => (digitValue 16 d).bind fun y =>
        (readHex cs).map (UInt8.ofNat (x * 16 + y) :: ·)

/-! ### Reading what was written -/

section

variable {ds rest : List Char} {n : ℕ}

theorem readDigits_append (h : IsDecimal ds n) (hrest : ∀ c ∈ rest.head?, c.isDigit = false) :
    readDigits (ds ++ rest) = some (n, rest) := by
  have htake : rest.takeWhile Char.isDigit = [] := by
    cases rest with
    | nil => rfl
    | cons c rest => exact List.takeWhile_cons_of_neg (by simp [hrest c rfl])
  have hdrop : rest.dropWhile Char.isDigit = rest := by
    cases rest with
    | nil => rfl
    | cons c rest => exact List.dropWhile_cons_of_neg (by simp [hrest c rfl])
  have htakes : (ds ++ rest).takeWhile Char.isDigit = ds := by
    rw [List.takeWhile_append_of_pos h.digits, htake, List.append_nil]
  have hdrops : (ds ++ rest).dropWhile Char.isDigit = rest := by
    rw [List.dropWhile_append_of_pos h.digits, hdrop]
  rw [readDigits, htakes, hdrops, if_neg h.nonempty, h.value]

/-- Zeros in front do not matter. -/
theorem isDecimal_zeros (k n : ℕ) : IsDecimal (List.replicate k '0' ++ Nat.toDigits 10 n) n where
  nonempty := List.append_ne_nil_of_right_ne_nil _ (toDigits_ne_nil n)
  digits := by
    intro c hc
    rcases List.mem_append.mp hc with hzero | hdigit
    · rw [List.eq_of_mem_replicate hzero]
      rfl
    · exact (isDecimal_toDigits n).digits c hdigit
  value := by
    rw [Nat.ofDigitChars_append, Nat.ofDigitChars_replicate_zero, Nat.mul_zero]
    exact (isDecimal_toDigits n).value

theorem readNumber_append (h : IsDecimal ds n) (hrest : ∀ c ∈ rest.head?, c.isDigit = false) :
    readNumber (ds ++ rest) = some ((n : ℤ), rest) := by
  have hread := readDigits_append h hrest
  have hminus : ∀ cs, ds ++ rest ≠ '-' :: cs := by
    intro cs hcs
    obtain ⟨d, ds, rfl⟩ := List.exists_cons_of_ne_nil h.nonempty
    have hdigit := h.digits d List.mem_cons_self
    rw [(List.cons.inj hcs).1] at hdigit
    exact absurd hdigit (by decide)
  rw [readNumber]
  · rw [hread]
    rfl
  · exact hminus

/-- **A padded number is read back**, if no digit follows. -/
theorem readNumber_paddedText (width : ℕ) (i : ℤ) (hrest : ∀ c ∈ rest.head?, c.isDigit = false) :
    readNumber (paddedText width i ++ rest) = some (i, rest) := by
  by_cases hi : i < 0
  · have htext : paddedText width i = '-' :: (List.replicate
        (width - 1 - (Nat.toDigits 10 i.natAbs).length) '0' ++ Nat.toDigits 10 i.natAbs) :=
      if_pos hi
    rw [htext, List.cons_append, readNumber, readDigits_append (isDecimal_zeros _ _) hrest,
      Option.map_some, Int.ofNat_natAbs_of_nonpos hi.le, neg_neg]
  · have htext : paddedText width i = List.replicate
        (width - (Nat.toDigits 10 i.natAbs).length) '0' ++ Nat.toDigits 10 i.natAbs :=
      if_neg hi
    rw [htext, readNumber_append (isDecimal_zeros _ _) hrest,
      Int.natAbs_of_nonneg (not_lt.mp hi)]

end

/-- An integer's text is a padded one of no width. -/
theorem intText_eq_paddedText (i : ℤ) : intText i = paddedText 0 i := by
  simp [intText, paddedText]

/-- **The numbers are read back from their text.** The induction is on the numbers behind the
first one. -/
theorem readFields_fieldsText (field : ℕ × ℤ) (fields : List (Char × ℕ × ℤ))
    (h : ∀ f ∈ fields, f.1.isDigit = false) :
    readFields (fields.map (·.1)) (fieldsText field fields) =
      some (field.2 :: fields.map (·.2.2)) := by
  induction fields generalizing field with
  | nil =>
    have hread : readNumber (paddedText field.1 field.2 ++ []) = some (field.2, []) :=
      readNumber_paddedText field.1 field.2 nofun
    rw [List.append_nil] at hread
    rw [fieldsText, List.map_nil, readFields, hread]
    rfl
  | cons f fields ih =>
    obtain ⟨separator, next⟩ := f
    have hread : readNumber (paddedText field.1 field.2 ++ separator :: fieldsText next fields) =
        some (field.2, separator :: fieldsText next fields) := by
      refine readNumber_paddedText field.1 field.2 fun c hc => ?_
      obtain rfl := Option.some.inj hc
      exact h _ List.mem_cons_self
    have hrest := ih next fun f hf => h f (List.mem_cons_of_mem _ hf)
    rw [fieldsText, List.map_cons, readFields, hread]
    change (if some separator = some separator then
      (readFields (fields.map (·.1)) (fieldsText next fields)).map (field.2 :: ·) else none) = _
    rw [if_pos rfl, hrest]
    rfl

/-- **Bytes are read back** from their hexadecimal digits. -/
theorem readHex_hexText (v : List UInt8) : readHex (v.flatMap hexText) = some v := by
  have hdigit : ∀ n < 16, digitValue 16 (Nat.digitChar n) = some n := by decide
  induction v with
  | nil => rfl
  | cons b v ih =>
    have hhigh := hdigit (b.toNat / 16) (Nat.div_lt_of_lt_mul b.toNat_lt)
    have hlow := hdigit (b.toNat % 16) (Nat.mod_lt _ (by decide))
    have hb : UInt8.ofNat (b.toNat / 16 * 16 + b.toNat % 16) = b := by
      rw [Nat.div_add_mod', UInt8.ofNat_toNat]
    change ((digitValue 16 (Nat.digitChar (b.toNat / 16))).bind fun x =>
      (digitValue 16 (Nat.digitChar (b.toNat % 16))).bind fun y =>
        (readHex (v.flatMap hexText)).map (UInt8.ofNat (x * 16 + y) :: ·)) = some (b :: v)
    rw [hhigh, hlow, ih, Option.bind_some, Option.bind_some, Option.map_some, hb]

end NumText
