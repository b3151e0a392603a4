import Mathlib.Algebra.Group.Nat.Defs
import Mathlib.Data.List.Basic
import Mathlib.Data.Int.Notation

/-!
# Numbers as text

The texts a formatting library writes for numbers: integers in decimal, with and
without padding, bytes in hexadecimal, and binary floating-point numbers in the
shortest decimal form that reads back as the same number.

What a program that splices such texts into others relies on is how they begin
and end, so that is what is proved here: `NumText.intText_cases` gives an
integer's text as an optional sign and a nonempty run of digits, and
`NumText.exists_cons_floatText` bounds the first symbol of a floating-point
number's text. `NumText.isNumberText_floatText` says of all its symbols that they
are those of a number, for which the unit must outgrow the number in time.
-/

namespace NumText

/-! ### Integers -/

/-- The decimal text of an integer: a minus sign for a negative one, then its
digits. -/
def intText (i : ℤ) : List Char :=
  if i < 0 then '-' :: Nat.toDigits 10 i.natAbs else Nat.toDigits 10 i.natAbs

/-- The decimal text of an integer, filled up with zeros to `width` symbols. The
zeros stand between the sign and the digits. -/
def paddedText (width : ℕ) (i : ℤ) : List Char :=
  let digits := Nat.toDigits 10 i.natAbs
  if i < 0 then '-' :: (List.replicate (width - 1 - digits.length) '0' ++ digits)
  else List.replicate (width - digits.length) '0' ++ digits

/-- The two hexadecimal digits of a byte. -/
def hexText (b : UInt8) : List Char :=
  [Nat.digitChar (b.toNat / 16), Nat.digitChar (b.toNat % 16)]

theorem toDigits_ne_nil (n : ℕ) : Nat.toDigits 10 n ≠ [] := by
  rw [Nat.toDigits_eq_if (by omega)]
  split <;> simp

/-- **An integer's text is an optional sign and a nonempty run of digits.** -/
theorem intText_cases (i : ℤ) : ∃ d ds, (∀ c ∈ d :: ds, c.isDigit = true) ∧
    (i < 0 ∧ intText i = '-' :: d :: ds ∨ 0 ≤ i ∧ intText i = d :: ds) := by
  obtain ⟨d, ds, hds⟩ := List.exists_cons_of_ne_nil (toDigits_ne_nil i.natAbs)
  refine ⟨d, ds, fun c hc => ?_, ?_⟩
  · exact Nat.isDigit_of_mem_toDigits (by omega) (by omega) (hds ▸ hc)
  · by_cases hi : i < 0
    · exact Or.inl ⟨hi, by rw [intText, if_pos hi, hds]⟩
    · exact Or.inr ⟨by omega, by rw [intText, if_neg hi, hds]⟩

/-! ### Binary floating-point numbers -/

/-- The layout of a binary interchange format: the stored bits of the mantissa
and the bits of the exponent, below the sign bit. -/
structure FloatFormat where
  /-- Stored mantissa bits. -/
  mantissaBits : ℕ
  /-- Exponent bits. -/
  exponentBits : ℕ

/-- Single precision. -/
def binary32 : FloatFormat := ⟨23, 8⟩

/-- Double precision. -/
def binary64 : FloatFormat := ⟨52, 11⟩

/-- A positive number on its way to decimal digits: `value / scale` is what is
left to be written, and a decimal number within `minus / scale` below it and
`plus / scale` above it still reads back as the same number. The bounds
themselves belong to the interval when `inclusive`. -/
structure Digitizer where
  /-- What is left to be written, in units of `scale`. -/
  value : ℕ
  /-- How far below the number a decimal may lie. -/
  minus : ℕ
  /-- How far above the number a decimal may lie. -/
  plus : ℕ
  /-- The unit. -/
  scale : ℕ
  /-- Whether the two bounds belong to the interval. -/
  inclusive : Bool

namespace Digitizer

/-- The lower end of the interval is at or below the digits written so far. -/
def low (d : Digitizer) : Bool :=
  if d.inclusive then d.value ≤ d.minus else d.value < d.minus

/-- The upper end of the interval is at or above the next unit. -/
def high (d : Digitizer) : Bool :=
  if d.inclusive then d.scale ≤ d.value + d.plus else d.scale < d.value + d.plus

/-- Multiply the unit by ten. -/
def scaleUp (d : Digitizer) : Digitizer := { d with scale := d.scale * 10 }

/-- Divide the unit by ten. -/
def scaleDown (d : Digitizer) : Digitizer :=
  { d with value := d.value * 10, minus := d.minus * 10, plus := d.plus * 10 }

/-- Bring the number below one unit, and at or above a tenth of one: the power
of ten the unit stands for is the position of the decimal point. -/
def normalize : ℕ → Digitizer → ℤ → Digitizer × ℤ
  | 0, d, k => (d, k)
  | fuel + 1, d, k =>
      if d.high then normalize fuel d.scaleUp (k + 1)
      else if d.scaleDown.high then (d, k)
      else normalize fuel d.scaleDown (k - 1)

/-- Write digits until one of the bounds is reached, and round the last one. -/
def digits : ℕ → Digitizer → List Char
  | 0, _ => ['0']
  | fuel + 1, d =>
      let e := d.scaleDown
      let q := e.value / e.scale
      let r := { e with value := e.value % e.scale }
      if r.low || r.high then
        [Nat.digitChar (if r.high && (!r.low || r.scale ≤ 2 * r.value) then q + 1 else q)]
      else Nat.digitChar q :: digits fuel r

theorem digits_ne_nil (fuel : ℕ) (d : Digitizer) : digits fuel d ≠ [] := by
  cases fuel with
  | zero => simp [digits]
  | succ fuel =>
    rw [digits]
    split <;> simp

/-- No digit is a question mark. -/
theorem digitChar_ne_question (n : ℕ) : Nat.digitChar n ≠ '?' := by
  rcases Nat.lt_or_ge n 16 with hn | hn
  · have hsmall : ∀ m < 16, Nat.digitChar m ≠ '?' := by decide
    exact hsmall n hn
  · have hstar : Nat.digitChar n = '*' := by
      unfold Nat.digitChar
      simp (disch := omega) only [if_neg]
    rw [hstar]
    decide

theorem digits_ne_question (fuel : ℕ) (d : Digitizer) : ∀ c ∈ digits fuel d, c ≠ '?' := by
  induction fuel generalizing d with
  | zero => simp [digits]
  | succ fuel ih =>
    intro c hc
    rw [digits] at hc
    split at hc
    · obtain rfl := List.mem_singleton.mp hc
      exact digitChar_ne_question _
    · rcases List.mem_cons.mp hc with rfl | hc
      · exact digitChar_ne_question _
      · exact ih _ c hc

end Digitizer

/-- Digits with the decimal point `k` places behind their start, without an
exponent. -/
def pointText (ds : List Char) (k : ℤ) : List Char :=
  if k ≤ 0 then '0' :: '.' :: (List.replicate (-k).toNat '0' ++ ds)
  else if k.toNat < ds.length then ds.take k.toNat ++ '.' :: ds.drop k.toNat
  else ds ++ List.replicate (k.toNat - ds.length) '0'

/-- The digitizer of the positive number `mantissa · 2 ^ exponent`. Its lower
neighbour is only half as far when the mantissa is at a power of two. -/
def digitizer (mantissa : ℕ) (exponent : ℤ) (atPower : Bool) : Digitizer :=
  let up := 2 ^ (exponent - 2).toNat
  { value := 4 * mantissa * up
    minus := (if atPower then 1 else 2) * up
    plus := 2 * up
    scale := 2 ^ (2 - exponent).toNat
    inclusive := mantissa % 2 == 0 }

/-- The text of the floating-point number with the given bits: the shortest
decimal, without an exponent, that reads back as the same number. -/
def floatText (f : FloatFormat) (bits : ℕ) : List Char :=
  let fraction := bits % 2 ^ f.mantissaBits
  let biased := bits / 2 ^ f.mantissaBits % 2 ^ f.exponentBits
  let sign := if bits / 2 ^ (f.mantissaBits + f.exponentBits) % 2 = 1 then ['-'] else []
  if biased = 2 ^ f.exponentBits - 1 then
    if fraction = 0 then sign ++ ['i', 'n', 'f'] else ['N', 'a', 'N']
  else if biased = 0 ∧ fraction = 0 then sign ++ ['0']
  else
    let mantissa := if biased = 0 then fraction else 2 ^ f.mantissaBits + fraction
    let exponent : ℤ := max biased 1 - (2 ^ (f.exponentBits - 1) - 1 + f.mantissaBits : ℕ)
    let start := digitizer mantissa exponent (biased ≠ 0 ∧ fraction = 0)
    -- both loops are bounded by the digits the format can need
    let (d, k) := start.normalize (2 ^ f.exponentBits) 0
    sign ++ pointText (d.digits (f.mantissaBits + 1)) k

theorem exists_cons_pointText {ds : List Char} (hds : ds ≠ []) (hq : ∀ c ∈ ds, c ≠ '?') (k : ℤ) :
    ∃ c t, pointText ds k = c :: t ∧ c ≠ '?' := by
  obtain ⟨c, t, rfl⟩ := List.exists_cons_of_ne_nil hds
  have hc : c ≠ '?' := hq c (by simp)
  rw [pointText]
  split
  · exact ⟨_, _, rfl, by decide⟩
  · split
    · obtain ⟨n, hn⟩ : ∃ n, k.toNat = n + 1 := ⟨k.toNat - 1, by omega⟩
      exact ⟨c, _, by rw [hn, List.take_succ_cons, List.cons_append], hc⟩
    · exact ⟨c, _, rfl, hc⟩

/-- **A floating-point number's text is nonempty and does not begin with a
question mark.** -/
theorem exists_cons_floatText (f : FloatFormat) (bits : ℕ) :
    ∃ c t, floatText f bits = c :: t ∧ c ≠ '?' := by
  have hsign : ∀ (b : Prop) [Decidable b] (u : List Char), (∃ c t, u = c :: t ∧ c ≠ '?') →
      ∃ c t, (if b then ['-'] else []) ++ u = c :: t ∧ c ≠ '?' := by
    intro b _ u hu
    by_cases hb : b
    · exact ⟨'-', u, by simp [hb], by decide⟩
    · simpa [hb] using hu
  rw [floatText]
  dsimp only
  split
  · split
    · exact hsign _ _ ⟨_, _, rfl, by decide⟩
    · exact ⟨_, _, rfl, by decide⟩
  · split
    · exact hsign _ _ ⟨_, _, rfl, by decide⟩
    · exact hsign _ _ (exists_cons_pointText (Digitizer.digits_ne_nil _ _)
        (Digitizer.digits_ne_question _ _) _)

/-! ### The symbols of a number -/

/-- The symbols of a number's text, behind its sign. -/
def IsNumberSymbol (c : Char) : Prop := c.isAlphanum = true ∨ c = '.'

/-- The text of a number: perhaps a minus sign, and then other symbols. -/
def IsNumberText (text : List Char) : Prop :=
  ∃ symbols ≠ [], (∀ c ∈ symbols, IsNumberSymbol c) ∧ (text = symbols ∨ text = '-' :: symbols)

theorem isNumberText_intText (i : ℤ) : IsNumberText (intText i) := by
  obtain ⟨d, ds, hdigits, h⟩ := intText_cases i
  refine ⟨d :: ds, List.cons_ne_nil _ _, fun c hc => .inl ?_, h.symm.imp And.right And.right⟩
  rw [Char.isAlphanum, hdigits c hc, Bool.or_true]

/-- The symbols of a padded number are its digits, zeros and its sign. -/
theorem mem_paddedText {width : ℕ} {i : ℤ} {c : Char} (h : c ∈ paddedText width i) :
    c = '-' ∨ c.isDigit = true := by
  have hdigits : ∀ {n : ℕ}, c ∈ List.replicate n '0' ++ Nat.toDigits 10 i.natAbs →
      c.isDigit = true := by
    intro n hc
    rcases List.mem_append.mp hc with hzero | hdigit
    · rw [List.eq_of_mem_replicate hzero]
      rfl
    · exact Nat.isDigit_of_mem_toDigits (by omega) (by omega) hdigit
  rw [paddedText] at h
  split at h
  · exact (List.mem_cons.mp h).imp_right hdigits
  · exact .inr (hdigits h)

theorem isAlphanum_digitChar {n : ℕ} (hn : n < 16) : (Nat.digitChar n).isAlphanum = true := by
  have hsmall : ∀ m < 16, (Nat.digitChar m).isAlphanum = true := by decide
  exact hsmall n hn

namespace Digitizer

/-- What is left is below the unit, even at the upper end of the interval. -/
structure Below (d : Digitizer) : Prop where
  le : d.value + d.plus ≤ d.scale
  plus : 0 < d.plus

theorem le_of_not_high {d : Digitizer} (h : d.high = false) : d.value + d.plus ≤ d.scale := by
  rw [high] at h
  split at h
  · exact Nat.le_of_lt (Nat.lt_of_not_ge (of_decide_eq_false h))
  · exact Nat.le_of_not_lt (of_decide_eq_false h)

/-- **The unit grows until the number is below it**, when there is fuel enough. -/
theorem below_normalize {fuel : ℕ} : ∀ {d : Digitizer} {k : ℤ}, 0 < d.plus →
    d.value + d.plus ≤ d.scale * 10 ^ fuel → (d.normalize fuel k).1.Below := by
  induction fuel with
  | zero =>
    intro d k hplus hle
    rw [Nat.pow_zero, Nat.mul_one] at hle
    exact ⟨hle, hplus⟩
  | succ fuel ih =>
    intro d k hplus hle
    rw [normalize]
    split
    · refine ih hplus ?_
      rw [Nat.pow_succ'] at hle
      rwa [scaleUp, Nat.mul_assoc]
    · rename_i hhigh
      split
      · exact ⟨le_of_not_high (Bool.eq_false_iff.mpr hhigh), hplus⟩
      · rename_i hdown
        refine ih (Nat.mul_pos hplus (by decide)) ?_
        refine Nat.le_trans (le_of_not_high (Bool.eq_false_iff.mpr hdown)) ?_
        exact Nat.le_mul_of_pos_right _ (Nat.pow_pos (by decide))

/-- **The digits of a number below one** are digits. -/
theorem isAlphanum_of_mem_digits {fuel : ℕ} : ∀ {d : Digitizer}, d.Below →
    ∀ c ∈ d.digits fuel, c.isAlphanum = true := by
  induction fuel with
  | zero =>
    intro d _ c hc
    rw [List.mem_singleton.mp hc]
    rfl
  | succ fuel ih =>
    intro d hd c hc
    have hq : d.value * 10 / d.scale < 10 := by
      have hlt : d.value < d.scale := by
        have hle := hd.le
        have hplus := hd.plus
        omega
      exact Nat.div_lt_of_lt_mul (Nat.mul_lt_mul_of_pos_right hlt (by decide))
    rw [digits] at hc
    split at hc
    · rw [List.mem_singleton.mp hc]
      refine isAlphanum_digitChar ?_
      split
      · exact Nat.lt_trans (Nat.succ_lt_succ hq) (by decide)
      · exact Nat.lt_trans hq (by decide)
    · rename_i hgo
      rcases List.mem_cons.mp hc with rfl | hc
      · exact isAlphanum_digitChar (Nat.lt_trans hq (by decide))
      · refine ih ⟨le_of_not_high ?_, Nat.mul_pos hd.plus (by decide)⟩ c hc
        exact (Bool.or_eq_false_iff.mp (Bool.eq_false_iff.mpr hgo)).2

end Digitizer

theorem isNumberSymbol_of_mem_pointText {ds : List Char} (hds : ∀ c ∈ ds, c.isAlphanum = true)
    {k : ℤ} {c : Char} (hc : c ∈ pointText ds k) : IsNumberSymbol c := by
  have hzero : ∀ {n : ℕ}, c ∈ List.replicate n '0' → IsNumberSymbol c := by
    intro n hzero
    rw [List.eq_of_mem_replicate hzero]
    exact .inl rfl
  rw [pointText] at hc
  split at hc
  · rcases List.mem_cons.mp hc with rfl | hc
    · exact .inl rfl
    rcases List.mem_cons.mp hc with rfl | hc
    · exact .inr rfl
    exact (List.mem_append.mp hc).elim hzero fun hc => .inl (hds c hc)
  · split at hc
    · rcases List.mem_append.mp hc with hc | hc
      · exact .inl (hds c (List.mem_of_mem_take hc))
      rcases List.mem_cons.mp hc with rfl | hc
      · exact .inr rfl
      · exact .inl (hds c (List.mem_of_mem_drop hc))
    · exact (List.mem_append.mp hc).elim (fun hc => .inl (hds c hc)) hzero

/-- The fuel of `floatText` is enough. -/
theorem below_digitizer {mantissaBits : ℕ} {mantissa : ℕ} {exponent : ℤ} {atPower : Bool}
    {fuel : ℕ} (hmantissa : mantissa < 2 ^ (mantissaBits + 1))
    (hexponent : mantissaBits + 3 + (exponent - 2).toNat ≤ fuel + 1) (hfuel : 0 < fuel) (k : ℤ) :
    ((digitizer mantissa exponent atPower).normalize fuel k).1.Below := by
  have hup : 0 < 2 ^ (exponent - 2).toNat := Nat.two_pow_pos _
  refine Digitizer.below_normalize (Nat.mul_pos (by decide) hup) ?_
  change 4 * mantissa * 2 ^ (exponent - 2).toNat + 2 * 2 ^ (exponent - 2).toNat ≤
    2 ^ (2 - exponent).toNat * 10 ^ fuel
  calc 4 * mantissa * 2 ^ (exponent - 2).toNat + 2 * 2 ^ (exponent - 2).toNat
      = (4 * mantissa + 2) * 2 ^ (exponent - 2).toNat := (Nat.add_mul ..).symm
    _ ≤ 2 ^ (mantissaBits + 3) * 2 ^ (exponent - 2).toNat := by
      refine Nat.mul_le_mul_right _ ?_
      have hpow : 2 ^ (mantissaBits + 3) = 4 * 2 ^ (mantissaBits + 1) := by
        rw [Nat.pow_add _ _ 3, Nat.pow_add _ _ 1]
        omega
      omega
    _ = 2 ^ (mantissaBits + 3 + (exponent - 2).toNat) := (Nat.pow_add ..).symm
    _ ≤ 2 ^ (fuel + 1) := Nat.pow_le_pow_right (by decide) hexponent
    _ = 2 ^ fuel * 2 := Nat.pow_succ ..
    _ ≤ 2 ^ fuel * 5 ^ fuel := by
      refine Nat.mul_le_mul_left _ (Nat.le_trans (by decide : 2 ≤ 5 ^ 1) ?_)
      exact Nat.pow_le_pow_right (by decide) hfuel
    _ = 10 ^ fuel := (Nat.mul_pow 2 5 fuel).symm
    _ ≤ 2 ^ (2 - exponent).toNat * 10 ^ fuel := Nat.le_mul_of_pos_left _ (Nat.two_pow_pos _)

/-- **A floating-point number's text is a number's text**, also that of an infinity, or of no
number. -/
theorem isNumberText_floatText {f : FloatFormat} (hf : f.mantissaBits + 2 ≤ 2 ^ f.exponentBits)
    (bits : ℕ) : IsNumberText (floatText f bits) := by
  have hsign : ∀ (b : Prop) [Decidable b] {u : List Char}, u ≠ [] → (∀ c ∈ u, IsNumberSymbol c) →
      IsNumberText ((if b then ['-'] else []) ++ u) := by
    intro b _ u hne hu
    refine ⟨u, hne, hu, ?_⟩
    by_cases hb : b
    · exact .inr (by rw [if_pos hb]; rfl)
    · exact .inl (by rw [if_neg hb]; rfl)
  have hletter : ∀ c : Char, c.isAlphanum = true → IsNumberSymbol c := fun _ => .inl
  rw [floatText]
  dsimp only
  have hfraction : bits % 2 ^ f.mantissaBits < 2 ^ f.mantissaBits :=
    Nat.mod_lt _ (Nat.two_pow_pos _)
  have hbiased : bits / 2 ^ f.mantissaBits % 2 ^ f.exponentBits < 2 ^ f.exponentBits :=
    Nat.mod_lt _ (Nat.two_pow_pos _)
  generalize bits % 2 ^ f.mantissaBits = fraction at hfraction ⊢
  generalize bits / 2 ^ f.mantissaBits % 2 ^ f.exponentBits = biased at hbiased ⊢
  split
  · split
    · exact hsign _ (List.cons_ne_nil _ _) (by simp [hletter])
    · exact ⟨['N', 'a', 'N'], List.cons_ne_nil _ _, by simp [hletter], .inl rfl⟩
  · rename_i hfinite
    split
    · exact hsign _ (List.cons_ne_nil _ _) (by simp [hletter])
    · have hmantissa : (if biased = 0 then fraction else 2 ^ f.mantissaBits + fraction) <
          2 ^ (f.mantissaBits + 1) := by
        rw [Nat.pow_succ]
        split <;> omega
      generalize (if biased = 0 then fraction else 2 ^ f.mantissaBits + fraction) = mantissa
        at hmantissa ⊢
      generalize hexponent : ((max biased 1 : ℕ) : ℤ) -
        (2 ^ (f.exponentBits - 1) - 1 + f.mantissaBits : ℕ) = exponent
      have hle : f.mantissaBits + 3 + (exponent - 2).toNat ≤ 2 ^ f.exponentBits + 1 := by omega
      have hbelow : ∀ atPower k, ((digitizer mantissa exponent atPower).normalize
          (2 ^ f.exponentBits) k).1.Below :=
        fun atPower k => below_digitizer hmantissa hle (by omega) k
      refine hsign _ (fun hnil => ?_) fun c => isNumberSymbol_of_mem_pointText
        (Digitizer.isAlphanum_of_mem_digits (hbelow _ 0))
      obtain ⟨c, t, hcons, -⟩ := exists_cons_pointText (Digitizer.digits_ne_nil _ _)
        (Digitizer.digits_ne_question _ _) _
      exact List.cons_ne_nil c t (hcons.symm.trans hnil)

end NumText
