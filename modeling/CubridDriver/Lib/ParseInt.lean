import Mathlib.Algebra.Order.Ring.Nat
import Mathlib.Data.Int.Notation
import Mathlib.Data.List.Basic

/-!
# Reading numbers

A parser for unsigned integers in a radix, with a largest value. It takes one plus sign in
front of the digits, and no other sign.

`ParseInt.fromStrRadix_eq_ok_iff` says which decimal texts are read: those of the numbers in
range, with a plus sign in front or without. So a number is read back from its decimal text
(`ParseInt.fromStrRadix_toDigits`). `ParseInt.fromStrRadix_pair` says what two characters are
read as: two digits, or a plus sign and a digit.
-/

namespace ParseInt

/-- Why a text is not read as a number. -/
inductive IntErrorKind
  | empty
  | invalidDigit
  | posOverflow
  deriving DecidableEq, Repr

/-- The message of an error. -/
def IntErrorKind.message : IntErrorKind → String
  | empty => "cannot parse integer from empty string"
  | invalidDigit => "invalid digit found in string"
  | posOverflow => "number too large to fit in target type"

/-- The value of a character as a digit. The letters, in both cases, are the digits from
ten on. -/
def valueOf (c : Char) : Option ℕ :=
  if c.isDigit then some (c.toNat - 48)
  else if 97 ≤ c.toNat ∧ c.toNat ≤ 122 then some (c.toNat - 87)
  else if 65 ≤ c.toNat ∧ c.toNat ≤ 90 then some (c.toNat - 55)
  else none

/-- The value of a digit in a radix. -/
def digitValue (radix : ℕ) (c : Char) : Option ℕ := (valueOf c).filter (· < radix)

/-- Read digits, behind those that have made up `result`. -/
def parseDigits (radix max : ℕ) (result : ℕ) : List Char → Except IntErrorKind ℕ
  | [] => .ok result
  | c :: cs =>
      match digitValue radix c with
      | none => .error .invalidDigit
      | some x =>
          if result * radix + x ≤ max then parseDigits radix max (result * radix + x) cs
          else .error .posOverflow

/-- Read a number. A sign alone is not one. -/
def fromStrRadix (radix max : ℕ) : List Char → Except IntErrorKind ℕ
  | [] => .error .empty
  | c :: cs =>
      if cs = [] ∧ (c = '+' ∨ c = '-') then .error .invalidDigit
      else parseDigits radix max 0 (if c = '+' then cs else c :: cs)

/-- The digits are decimal digits and letters. -/
theorem valueOf_eq_some {c : Char} {x : ℕ} (h : valueOf c = some x) :
    48 ≤ c.toNat ∧ c.toNat ≤ 57 ∧ x = c.toNat - 48 ∨
      97 ≤ c.toNat ∧ c.toNat ≤ 122 ∧ x = c.toNat - 87 ∨
      65 ≤ c.toNat ∧ c.toNat ≤ 90 ∧ x = c.toNat - 55 := by
  rw [valueOf] at h
  split_ifs at h with hdigit hlower hupper
  · simp only [Char.isDigit, Bool.and_eq_true, decide_eq_true_eq] at hdigit
    exact .inl ⟨hdigit.1, hdigit.2, (Option.some.inj h).symm⟩
  · exact .inr (.inl ⟨hlower.1, hlower.2, (Option.some.inj h).symm⟩)
  · exact .inr (.inr ⟨hupper.1, hupper.2, (Option.some.inj h).symm⟩)

theorem digitValue_lt {radix x : ℕ} {c : Char} (h : digitValue radix c = some x) : x < radix :=
  of_decide_eq_true (Option.filter_eq_some_iff.mp h).2

/-- There are no digits beyond ASCII. -/
theorem digitValue_eq_none {radix : ℕ} {c : Char} (h : 128 ≤ c.toNat) :
    digitValue radix c = none := by
  have hvalue : valueOf c = none := by
    refine Option.eq_none_iff_forall_ne_some.mpr fun x hx => ?_
    have hcases := valueOf_eq_some hx
    omega
  rw [digitValue, hvalue]
  rfl

@[simp] theorem parseDigits_nil_eq_ok {radix max result n : ℕ} :
    parseDigits radix max result [] = .ok n ↔ result = n := by
  rw [parseDigits, Except.ok.injEq]

/-- Digits are read one by one, as long as they are in range. -/
theorem parseDigits_cons_eq_ok {radix max result n : ℕ} {c : Char} {cs : List Char} :
    parseDigits radix max result (c :: cs) = .ok n ↔
      ∃ x, digitValue radix c = some x ∧ result * radix + x ≤ max ∧
        parseDigits radix max (result * radix + x) cs = .ok n := by
  rw [parseDigits]
  cases digitValue radix c with
  | none => simp
  | some x => by_cases hle : result * radix + x ≤ max <;> simp [hle]

/-- What is read is ASCII. -/
theorem lt_of_parseDigits {radix max n : ℕ} {cs : List Char} :
    ∀ {result : ℕ}, parseDigits radix max result cs = .ok n → ∀ c ∈ cs, c.toNat < 128 := by
  induction cs with
  | nil => exact fun _ c hc => absurd hc List.not_mem_nil
  | cons c cs ih =>
    intro result h
    obtain ⟨x, hx, -, hrest⟩ := parseDigits_cons_eq_ok.mp h
    refine List.forall_mem_cons.mpr ⟨?_, ih hrest⟩
    by_contra hc
    cases (digitValue_eq_none (Nat.not_lt.mp hc)).symm.trans hx

theorem lt_of_fromStrRadix {radix max n : ℕ} {cs : List Char}
    (h : fromStrRadix radix max cs = .ok n) : ∀ c ∈ cs, c.toNat < 128 := by
  cases cs with
  | nil => exact fun c hc => absurd hc List.not_mem_nil
  | cons c cs =>
    rw [fromStrRadix] at h
    split_ifs at h with hsign hplus
    · exact List.forall_mem_cons.mpr ⟨hplus ▸ (by decide), lt_of_parseDigits h⟩
    · exact lt_of_parseDigits h

/-! ### Decimal texts -/

theorem digitValue_of_isDigit {c : Char} (h : c.isDigit = true) :
    digitValue 10 c = some (c.toNat - 48) := by
  have hle : c.toNat ≤ 57 := by
    simp only [Char.isDigit, Bool.and_eq_true, decide_eq_true_eq] at h
    exact h.2
  rw [digitValue, valueOf, if_pos h, Option.filter_some, if_pos (by simp; omega)]

/-- The decimal digits are the ones that count in radix ten. -/
theorem digitValue_ten_eq_some {c : Char} {x : ℕ} :
    digitValue 10 c = some x ↔ c.isDigit = true ∧ c.toNat - 48 = x := by
  constructor
  · intro h
    have hvalue : valueOf c = some x := (Option.filter_eq_some_iff.mp h).1
    have hlt := digitValue_lt h
    have hdigit : c.isDigit = true := by
      rw [Char.isDigit, Bool.and_eq_true, decide_eq_true_eq, decide_eq_true_eq]
      have hcases := valueOf_eq_some hvalue
      exact ⟨show 48 ≤ c.toNat by omega, show c.toNat ≤ 57 by omega⟩
    exact ⟨hdigit, Option.some.inj ((digitValue_of_isDigit hdigit).symm.trans h)⟩
  · rintro ⟨hdigit, rfl⟩
    exact digitValue_of_isDigit hdigit

theorem parseDigits_of_isDigit {max : ℕ} {cs : List Char} (hcs : ∀ c ∈ cs, c.isDigit = true) :
    ∀ {result : ℕ}, Nat.ofDigitChars 10 cs result ≤ max →
      parseDigits 10 max result cs = .ok (Nat.ofDigitChars 10 cs result) := by
  induction cs with
  | nil => exact fun _ => by rw [parseDigits, Nat.ofDigitChars_nil]
  | cons c cs ih =>
    intro result hmax
    rw [Nat.ofDigitChars_cons, Nat.mul_comm 10] at hmax ⊢
    -- what has been read so far is not above the whole number
    have hle : result * 10 + (c.toNat - 48) ≤ max := by
      refine le_trans ?_ hmax
      rw [Nat.ofDigitChars_eq_ofDigitChars_zero]
      have hpow : 1 ≤ 10 ^ cs.length := Nat.one_le_pow _ _ (by decide)
      exact le_trans (Nat.le_mul_of_pos_left _ hpow) (Nat.le_add_right _ _)
    refine parseDigits_cons_eq_ok.mpr ⟨_, digitValue_of_isDigit (hcs c List.mem_cons_self), hle, ?_⟩
    exact ih (fun d hd => hcs d (List.mem_cons_of_mem c hd)) hmax

/-- The text is the number, in decimal digits. Zeros in front do not matter. -/
structure IsDecimal (text : List Char) (n : ℕ) : Prop where
  nonempty : text ≠ []
  digits : ∀ c ∈ text, c.isDigit = true
  value : Nat.ofDigitChars 10 text 0 = n

/-- Only digits are read, and what is read is their value. -/
theorem of_parseDigits {max n : ℕ} {cs : List Char} : ∀ {result : ℕ}, result ≤ max →
    parseDigits 10 max result cs = .ok n →
      (∀ c ∈ cs, c.isDigit = true) ∧ Nat.ofDigitChars 10 cs result = n ∧ n ≤ max := by
  induction cs with
  | nil =>
    intro result hmax h
    obtain rfl : result = n := parseDigits_nil_eq_ok.mp h
    exact ⟨fun c hc => absurd hc List.not_mem_nil, Nat.ofDigitChars_nil, hmax⟩
  | cons c cs ih =>
    intro result hmax h
    obtain ⟨x, hx, hle, hrest⟩ := parseDigits_cons_eq_ok.mp h
    obtain ⟨hdigit, rfl⟩ := digitValue_ten_eq_some.mp hx
    obtain ⟨hdigits, hvalue, hn⟩ := ih hle hrest
    refine ⟨List.forall_mem_cons.mpr ⟨hdigit, hdigits⟩, ?_, hn⟩
    rw [Nat.ofDigitChars_cons, Nat.mul_comm 10]
    exact hvalue

theorem parseDigits_eq_ok_iff {max n : ℕ} {cs : List Char} (hne : cs ≠ []) :
    parseDigits 10 max 0 cs = .ok n ↔ IsDecimal cs n ∧ n ≤ max := by
  constructor
  · intro h
    obtain ⟨hdigits, hvalue, hn⟩ := of_parseDigits (Nat.zero_le max) h
    exact ⟨⟨hne, hdigits, hvalue⟩, hn⟩
  · rintro ⟨⟨-, hdigits, rfl⟩, hn⟩
    exact parseDigits_of_isDigit hdigits hn

theorem not_isDecimal_sign {c : Char} {cs : List Char} {n : ℕ} (hc : c = '+' ∨ c = '-') :
    ¬IsDecimal (c :: cs) n := by
  intro h
  have hdigit := h.digits c List.mem_cons_self
  rcases hc with rfl | rfl <;> exact absurd hdigit (by decide)

/-- The text is the number, with a plus sign in front or without. -/
def IsNumeral (text : List Char) (n : ℕ) : Prop :=
  IsDecimal text n ∨ ∃ digits, text = '+' :: digits ∧ IsDecimal digits n

/-- **The decimal texts that are read** are those of the numbers in range. -/
theorem fromStrRadix_eq_ok_iff {max n : ℕ} {text : List Char} :
    fromStrRadix 10 max text = .ok n ↔ IsNumeral text n ∧ n ≤ max := by
  cases text with
  | nil =>
    refine iff_of_false nofun ?_
    rintro ⟨h | ⟨digits, h, -⟩, -⟩
    · exact h.nonempty rfl
    · cases h
  | cons c cs =>
    rw [fromStrRadix]
    by_cases hsign : cs = [] ∧ (c = '+' ∨ c = '-')
    · rw [if_pos hsign]
      refine iff_of_false nofun ?_
      rintro ⟨h | ⟨digits, h, hdigits⟩, -⟩
      · exact not_isDecimal_sign hsign.2 h
      · exact hdigits.nonempty ((List.cons.inj h).2.symm.trans hsign.1)
    · rw [if_neg hsign]
      by_cases hplus : c = '+'
      · have hne : cs ≠ [] := fun hnil => hsign ⟨hnil, .inl hplus⟩
        rw [if_pos hplus, parseDigits_eq_ok_iff hne]
        refine and_congr_left fun _ => ⟨fun h => .inr ⟨cs, by rw [hplus], h⟩, ?_⟩
        rintro (h | ⟨digits, h, hdigits⟩)
        · exact absurd h (not_isDecimal_sign (.inl hplus))
        · exact (List.cons.inj h).2 ▸ hdigits
      · rw [if_neg hplus, parseDigits_eq_ok_iff (List.cons_ne_nil c cs)]
        refine and_congr_left fun _ => ⟨.inl, ?_⟩
        rintro (h | ⟨digits, h, -⟩)
        · exact h
        · exact absurd (List.cons.inj h).1 hplus

theorem isDecimal_toDigits (n : ℕ) : IsDecimal (Nat.toDigits 10 n) n where
  nonempty := Nat.toDigits_ne_nil
  digits := fun _ hc => Nat.isDigit_of_mem_toDigits (by decide) (by decide) hc
  value := Nat.ofDigitChars_ten_toDigits

/-- **A number is read back** from its decimal text. -/
theorem fromStrRadix_toDigits {max n : ℕ} (h : n ≤ max) :
    fromStrRadix 10 max (Nat.toDigits 10 n) = .ok n :=
  fromStrRadix_eq_ok_iff.mpr ⟨.inl (isDecimal_toDigits n), h⟩

/-! ### Two characters -/

/-- **What two characters are read as**: two digits, or a plus sign and a digit. -/
theorem fromStrRadix_pair {radix max n : ℕ} {c d : Char} (hmax : radix * radix ≤ max + 1)
    (hplus : digitValue radix '+' = none) : fromStrRadix radix max [c, d] = .ok n ↔
      (∃ x y, digitValue radix c = some x ∧ digitValue radix d = some y ∧ n = x * radix + y) ∨
        c = '+' ∧ digitValue radix d = some n := by
  have hone {x : ℕ} (hx : x < radix) : x ≤ max := by
    have hsquare : radix ≤ radix * radix := Nat.le_mul_self radix
    omega
  have htwo {x y : ℕ} (hx : x < radix) (hy : y < radix) : x * radix + y ≤ max := by
    have hrow : (x + 1) * radix ≤ radix * radix := Nat.mul_le_mul_right radix hx
    rw [Nat.add_mul, Nat.one_mul] at hrow
    omega
  rw [fromStrRadix, if_neg fun h => absurd h.1 (List.cons_ne_nil _ _)]
  by_cases hc : c = '+'
  · rw [if_pos hc, parseDigits_cons_eq_ok]
    simp only [Nat.zero_mul, Nat.zero_add, parseDigits_nil_eq_ok]
    constructor
    · rintro ⟨x, hx, -, rfl⟩
      exact .inr ⟨hc, hx⟩
    · rintro (⟨x, y, hx, -⟩ | ⟨-, hn⟩)
      · subst hc
        cases hplus.symm.trans hx
      · exact ⟨n, hn, hone (digitValue_lt hn), rfl⟩
  · rw [if_neg hc, parseDigits_cons_eq_ok]
    simp only [parseDigits_cons_eq_ok, Nat.zero_mul, Nat.zero_add, parseDigits_nil_eq_ok]
    constructor
    · rintro ⟨x, hx, -, y, hy, -, rfl⟩
      exact .inl ⟨x, y, hx, hy, rfl⟩
    · rintro (⟨x, y, hx, hy, rfl⟩ | ⟨rfl, -⟩)
      · have hx' := digitValue_lt hx
        exact ⟨x, hx, hone hx', y, hy, htwo hx' (digitValue_lt hy), rfl⟩
      · exact absurd rfl hc

end ParseInt
