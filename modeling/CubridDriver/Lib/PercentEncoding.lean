import CubridDriver.Lib.ParseInt
import CubridDriver.Lib.Utf8
import Mathlib.Data.Bool.AllAny
import Mathlib.Data.List.Infix

/-!
# Percent-encoding

A byte of a text may be written as an escape: a percent sign and two hexadecimal digits.
`PercentEncoding.unescape` replaces the escapes of a text by the bytes they stand for, from
left to right. A percent sign that starts no escape is kept.

`PercentEncoding.Escapes` relates bytes to the ways to write them down where only some
bytes, which are `plain`, may stand for themselves. If the percent sign is not among them,
the bytes are read back (`PercentEncoding.Escapes.unescape_eq`).
-/

namespace PercentEncoding

/-- The value of a hexadecimal digit. -/
def hexValue (b : UInt8) : Option ℕ := ParseInt.digitValue 16 (Utf8.charOfByte b)

/-- The byte that an escape stands for. -/
def escapeByte (b h l : UInt8) : Option UInt8 :=
  if b = 0x25 then
    match hexValue h, hexValue l with
    | some x, some y => some (UInt8.ofNat (x * 16 + y))
    | _, _ => none
  else none

/-- Replace the escapes by the bytes they stand for, and keep the other bytes. -/
def unescape : List UInt8 → List UInt8
  | b :: h :: l :: bs =>
      match escapeByte b h l with
      | some byte => byte :: unescape bs
      | none => b :: unescape (h :: l :: bs)
  | bs => bs

theorem escapeByte_eq_some {b h l byte : UInt8} : escapeByte b h l = some byte ↔ b = 0x25 ∧
    ∃ x y, hexValue h = some x ∧ hexValue l = some y ∧ byte = UInt8.ofNat (x * 16 + y) := by
  rw [escapeByte]
  by_cases hb : b = 0x25
  · cases hexValue h <;> cases hexValue l <;> simp [hb, eq_comm]
  · simp [hb]

/-- An escape has three bytes. -/
theorem unescape_of_length_lt {bs : List UInt8} (h : bs.length < 3) : unescape bs = bs := by
  match bs with
  | [] => rfl
  | [_] => rfl
  | [_, _] => rfl
  | b :: c :: d :: bs =>
    simp only [List.length_cons] at h
    omega

/-- Only a percent sign starts an escape. -/
theorem unescape_cons_of_ne {b : UInt8} (hb : b ≠ 0x25) (bs : List UInt8) :
    unescape (b :: bs) = b :: unescape bs := by
  match bs with
  | [] => rfl
  | [_] => rfl
  | h :: l :: bs =>
    have hnone : escapeByte b h l = none := if_neg hb
    rw [unescape, hnone]

/-- A text without percent signs stands for itself. -/
theorem unescape_of_not_mem {bs : List UInt8} (h : 0x25 ∉ bs) : unescape bs = bs := by
  induction bs with
  | nil => rfl
  | cons b bs ih =>
    rw [List.mem_cons, not_or] at h
    rw [unescape_cons_of_ne (Ne.symm h.1), ih h.2]

/-- A hexadecimal digit is a decimal digit or one of twelve letters. -/
theorem hexValue_eq_some {b : UInt8} {x : ℕ} (h : hexValue b = some x) :
    48 ≤ b.toNat ∧ b.toNat ≤ 57 ∨ 65 ≤ b.toNat ∧ b.toNat ≤ 70 ∨ 97 ≤ b.toNat ∧ b.toNat ≤ 102 := by
  have hlt := ParseInt.digitValue_lt h
  have hvalue := ParseInt.valueOf_eq_some (Option.filter_eq_some_iff.mp h).1
  rw [Utf8.toNat_charOfByte] at hvalue
  omega

/-! ### Writing -/

/-- The second text is a way to write the first one: every byte is escaped, or is plain. -/
inductive Escapes (plain : UInt8 → Prop) : List UInt8 → List UInt8 → Prop
  /-- Nothing is left. -/
  | nil : Escapes plain [] []
  /-- A byte that stands for itself. -/
  | plain {b : UInt8} {bs word : List UInt8} (hb : plain b) (h : Escapes plain bs word) :
      Escapes plain (b :: bs) (b :: word)
  /-- A byte that is escaped. -/
  | escape {b c d : UInt8} {bs word : List UInt8} (hb : escapeByte 0x25 c d = some b)
      (h : Escapes plain bs word) : Escapes plain (b :: bs) (0x25 :: c :: d :: word)

namespace Escapes

variable {plain : UInt8 → Prop} {bs word : List UInt8}

/-- **What is written is read back.** -/
theorem unescape_eq (h : Escapes plain bs word) (hplain : ¬plain 0x25) : unescape word = bs := by
  induction h with
  | nil => rfl
  | @plain b _ _ hb _ ih =>
    have hne : b ≠ 0x25 := by
      rintro rfl
      exact hplain hb
    rw [unescape_cons_of_ne hne, ih]
  | escape hb _ ih => rw [unescape, hb, ih]

/-- What the text consists of. -/
theorem mem_word (h : Escapes plain bs word) {b : UInt8} (hb : b ∈ word) :
    plain b ∨ b = 0x25 ∨ ∃ x, hexValue b = some x := by
  induction h with
  | nil => cases hb
  | plain hplain _ ih =>
    rcases List.mem_cons.mp hb with rfl | hb
    · exact .inl hplain
    · exact ih hb
  | escape hescape _ ih =>
    obtain ⟨-, x, y, hx, hy, -⟩ := escapeByte_eq_some.mp hescape
    simp only [List.mem_cons] at hb
    rcases hb with rfl | rfl | rfl | hb
    · exact .inr (.inl rfl)
    · exact .inr (.inr ⟨x, hx⟩)
    · exact .inr (.inr ⟨y, hy⟩)
    · exact ih hb

end Escapes

/-! ### The usual way to write -/

/-- The bytes that need no escape: letters, digits and the four marks `-`, `.`, `_`, `~`. -/
def Unreserved (b : UInt8) : Prop :=
  65 ≤ b.toNat ∧ b.toNat ≤ 90 ∨ 97 ≤ b.toNat ∧ b.toNat ≤ 122 ∨ 48 ≤ b.toNat ∧ b.toNat ≤ 57 ∨
    b ∈ [0x2D, 0x2E, 0x5F, 0x7E]

instance (b : UInt8) : Decidable (Unreserved b) := by
  unfold Unreserved
  infer_instance

/-- A hexadecimal digit, in upper case. -/
def hexDigit (n : ℕ) : UInt8 := if n < 10 then UInt8.ofNat (48 + n) else UInt8.ofNat (55 + n)

theorem hexValue_hexDigit : ∀ n < 16, hexValue (hexDigit n) = some n := by decide

/-- Escape a byte unless it is unreserved. -/
def escape (b : UInt8) : List UInt8 :=
  if Unreserved b then [b] else [0x25, hexDigit (b.toNat / 16), hexDigit (b.toNat % 16)]

/-- Escape every byte of a text that is not unreserved. -/
def percentEncode (s : String) : String :=
  String.ofList (((Utf8.encode s).flatMap escape).map Utf8.charOfByte)

theorem escapeByte_hexDigit (b : UInt8) :
    escapeByte 0x25 (hexDigit (b.toNat / 16)) (hexDigit (b.toNat % 16)) = some b := by
  have hlt := b.toNat_lt
  refine escapeByte_eq_some.mpr ⟨rfl, _, _, hexValue_hexDigit _ (by omega),
    hexValue_hexDigit _ (by omega), ?_⟩
  rw [Nat.div_add_mod', UInt8.ofNat_toNat]

theorem escapes_flatMap (bs : List UInt8) : Escapes Unreserved bs (bs.flatMap escape) := by
  induction bs with
  | nil => exact .nil
  | cons b bs ih =>
    rw [List.flatMap_cons, escape]
    split
    · exact .plain ‹_› ih
    · exact .escape (escapeByte_hexDigit b) ih

/-- **Every text can be written.** -/
theorem escapes_percentEncode (s : String) :
    Escapes Unreserved (Utf8.encode s) (Utf8.encode (percentEncode s)) := by
  have hmarks : ∀ b ∈ ([0x2D, 0x2E, 0x5F, 0x7E] : List UInt8), b.toNat < 128 :=
    List.all_iff_forall_prop.mp (by decide)
  have hascii : ∀ b ∈ (Utf8.encode s).flatMap escape, Utf8.isHigh b = false := by
    intro b hb
    refine decide_eq_false ?_
    rcases (escapes_flatMap _).mem_word hb with hplain | rfl | ⟨x, hx⟩
    · rcases hplain with h | h | h | h
      · omega
      · omega
      · omega
      · exact Nat.not_le.mpr (hmarks b h)
    · decide
    · have hcases := hexValue_eq_some hx
      omega
  rw [percentEncode, Utf8.encode_ofList_ascii hascii]
  exact escapes_flatMap _

end PercentEncoding
