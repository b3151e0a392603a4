import CubridDriver.Lib.PercentEncoding

/-!
# Percent-decoding

The user and the password of a data source name may be percent-encoded. They are decoded
byte by byte: a byte, or what an escape stands for, becomes the character with this code
point. The digits of an escape are read by a parser for numbers, which also takes a plus
sign and one digit.

So the result is the text that the bytes encode when they are ASCII, and else it is not:
`CubridDriver.percentDecode_iff`.
-/

namespace CubridDriver

open PercentEncoding Utf8

/-! ### The decoder -/

/-- Bytes as a text, or no text when they are not valid UTF-8. -/
def textOrEmpty (bs : List UInt8) : List Char := (decode bs).toOption.elim [] String.toList

/-- What two bytes are read as, behind a percent sign. -/
def hexByte (h l : UInt8) : Option UInt8 :=
  (ParseInt.fromStrRadix 16 255 (textOrEmpty [h, l])).toOption.map UInt8.ofNat

/-- Simple percent-decode (handles %XX sequences). -/
def percentDecode (s : String) : String := String.ofList (go (encode s))
where
  /-- The loop, on the bytes that are left. -/
  go : List UInt8 → List Char
  | b :: h :: l :: bs =>
      match (if b = 0x25 then hexByte h l else none) with
      | some byte => charOfByte byte :: go bs
      | none => charOfByte b :: go (h :: l :: bs)
  | bs => bs.map charOfByte -- no escape fits in what is left

/-! ### Two digits, or a sign and a digit -/

theorem textOrEmpty_ascii {bs : List UInt8} (h : ∀ b ∈ bs, isHigh b = false) :
    textOrEmpty bs = bs.map charOfByte := by
  rw [textOrEmpty, decode_eq_ok.mpr (encode_ofList_ascii h).symm]
  exact String.toList_ofList

theorem hexByte_eq_some_iff {h l byte : UInt8} : hexByte h l = some byte ↔
    ∃ n, ParseInt.fromStrRadix 16 255 (textOrEmpty [h, l]) = .ok n ∧ UInt8.ofNat n = byte := by
  rw [hexByte, Option.map_eq_some_iff]
  cases ParseInt.fromStrRadix 16 255 (textOrEmpty [h, l]) <;> simp [Except.toOption]

theorem charOfByte_eq_plus {b : UInt8} : charOfByte b = '+' ↔ b = 0x2B := by
  rw [← Char.toNat_inj, toNat_charOfByte, ← UInt8.toNat_inj]
  rfl

theorem isHigh_of_hexValue {b : UInt8} {x : ℕ} (h : hexValue b = some x) : isHigh b = false := by
  have hcases := hexValue_eq_some h
  exact decide_eq_false (by omega)

/-- Only ASCII is read. -/
theorem isHigh_of_hexByte {h l byte : UInt8} (hbyte : hexByte h l = some byte) :
    isHigh h = false ∧ isHigh l = false := by
  obtain ⟨n, hn, -⟩ := hexByte_eq_some_iff.mp hbyte
  rw [textOrEmpty] at hn
  cases hdecode : decode [h, l] with
  | error e =>
    rw [hdecode] at hn
    cases hn
  | ok s =>
    rw [hdecode] at hn
    obtain ⟨-, hhigh⟩ := map_charOfByte_ascii (ParseInt.lt_of_fromStrRadix hn)
    have hbs : [h, l] = s.toList.flatMap String.utf8EncodeChar := decode_eq_ok.mp hdecode
    have hhigh : ∀ b ∈ [h, l], isHigh b = false := hbs ▸ hhigh
    exact ⟨hhigh h (by simp), hhigh l (by simp)⟩

/-- **What stands behind a percent sign** is read as two digits, or as a plus sign and one. -/
theorem hexByte_eq_some {h l byte : UInt8} : hexByte h l = some byte ↔
    (∃ x y, hexValue h = some x ∧ hexValue l = some y ∧ byte = UInt8.ofNat (x * 16 + y)) ∨
      h = 0x2B ∧ ∃ y, hexValue l = some y ∧ byte = UInt8.ofNat y := by
  have hpair {n : ℕ} := @ParseInt.fromStrRadix_pair 16 255 n (charOfByte h) (charOfByte l)
    (by decide) (by decide)
  have hascii (hh : isHigh h = false) (hl : isHigh l = false) :
      textOrEmpty [h, l] = [charOfByte h, charOfByte l] := textOrEmpty_ascii (by simp [hh, hl])
  constructor
  · intro hbyte
    obtain ⟨hh, hl⟩ := isHigh_of_hexByte hbyte
    obtain ⟨n, hn, rfl⟩ := hexByte_eq_some_iff.mp hbyte
    rw [hascii hh hl] at hn
    rcases hpair.mp hn with ⟨x, y, hx, hy, rfl⟩ | ⟨hplus, hn⟩
    · exact .inl ⟨x, y, hx, hy, rfl⟩
    · exact .inr ⟨charOfByte_eq_plus.mp hplus, n, hn, rfl⟩
  · rintro (⟨x, y, hx, hy, rfl⟩ | ⟨rfl, y, hy, rfl⟩)
    · refine hexByte_eq_some_iff.mpr ⟨_, ?_, rfl⟩
      rw [hascii (isHigh_of_hexValue hx) (isHigh_of_hexValue hy)]
      exact hpair.mpr (.inl ⟨x, y, hx, hy, rfl⟩)
    · refine hexByte_eq_some_iff.mpr ⟨_, ?_, rfl⟩
      rw [hascii (by decide) (isHigh_of_hexValue hy)]
      exact hpair.mpr (.inr ⟨rfl, hy⟩)

/-! ### What the loop does -/

/-- A plus sign and a digit stand behind a percent sign. -/
def Signed (bs : List UInt8) : Prop :=
  ∃ l x, hexValue l = some x ∧ [0x25, 0x2B, l] <:+: bs

theorem not_signed_of_length_lt {bs : List UInt8} (h : bs.length < 3) : ¬Signed bs := by
  rintro ⟨l, -, -, hsub⟩
  have hle := hsub.length_le
  simp only [List.length_cons, List.length_nil] at hle
  omega

/-- The first byte, and the rest. -/
theorem signed_cons {b : UInt8} {bs : List UInt8} :
    Signed (b :: bs) ↔ (∃ l x, hexValue l = some x ∧ [0x25, 0x2B, l] <+: b :: bs) ∨ Signed bs := by
  simp only [Signed, List.infix_cons_iff, and_or_left, exists_or]

theorem signed_cons_of_ne {b : UInt8} {bs : List UInt8} (hb : b ≠ 0x25) :
    Signed (b :: bs) ↔ Signed bs := by
  rw [signed_cons, or_iff_right]
  rintro ⟨l, x, -, hpre⟩
  exact hb (List.cons_prefix_cons.mp hpre).1.symm

theorem hexValue_ne {b c : UInt8} {x : ℕ} (h : hexValue b = some x) (hc : hexValue c = none) :
    b ≠ c := by
  rintro rfl
  cases h.symm.trans hc

/-- No sign stands in an escape. -/
theorem signed_escape {c d : UInt8} {x y : ℕ} {bs : List UInt8} (hx : hexValue c = some x)
    (hy : hexValue d = some y) : Signed (0x25 :: c :: d :: bs) ↔ Signed bs := by
  rw [signed_cons, signed_cons_of_ne (hexValue_ne hx rfl),
    signed_cons_of_ne (hexValue_ne hy rfl), or_iff_right]
  rintro ⟨l, -, -, hpre⟩
  have hplus := (List.cons_prefix_cons.mp (List.cons_prefix_cons.mp hpre).2).1
  exact hexValue_ne hx rfl hplus.symm

theorem countP_map_charOfByte (bs : List UInt8) :
    (bs.map charOfByte).countP isHighChar = bs.countP isHigh := by
  rw [List.countP_map]
  exact List.countP_congr fun b _ => by rw [Function.comp_apply, isHighChar_charOfByte]

/-- What the loop makes of these bytes, next to the escapes it is to replace. Where no sign
is taken for a digit, it makes a character of each byte, and else there are fewer
characters. The bytes beyond ASCII, and no others, become characters beyond ASCII. -/
structure GoSpec (bs : List UInt8) (chars : List Char) : Prop where
  eq_map : ¬Signed bs → chars = (unescape bs).map charOfByte
  length_lt : Signed bs → chars.length < (unescape bs).length
  countP_eq : chars.countP isHighChar = (unescape bs).countP isHigh

theorem GoSpec.length_le {bs : List UInt8} {chars : List Char} (h : GoSpec bs chars) :
    chars.length ≤ (unescape bs).length := by
  by_cases hsigned : Signed bs
  · exact (h.length_lt hsigned).le
  · rw [h.eq_map hsigned, List.length_map]

/-- One byte, as a character. -/
theorem GoSpec.cons {b byte : UInt8} {bs rest : List UInt8} {chars : List Char}
    (h : GoSpec rest chars) (hbs : unescape (b :: bs) = byte :: unescape rest)
    (hsigned : Signed (b :: bs) ↔ Signed rest) :
    GoSpec (b :: bs) (charOfByte byte :: chars) where
  eq_map hnot := by rw [hbs, List.map_cons, h.eq_map (mt hsigned.mpr hnot)]
  length_lt hsign := by
    rw [hbs, List.length_cons, List.length_cons]
    exact Nat.succ_lt_succ (h.length_lt (hsigned.mp hsign))
  countP_eq := by
    rw [hbs, List.countP_cons, List.countP_cons, h.countP_eq, isHighChar_charOfByte]

/-- Three bytes, as a character. -/
theorem GoSpec.sign {l : UInt8} {bs : List UInt8} {chars : List Char} (h : GoSpec bs chars)
    {y : ℕ} (hy : hexValue l = some y) :
    GoSpec (0x25 :: 0x2B :: l :: bs) (charOfByte (UInt8.ofNat y) :: chars) := by
  have hsigned : Signed (0x25 :: 0x2B :: l :: bs) := ⟨l, y, hy, [], bs, rfl⟩
  have hl : l ≠ 0x25 := hexValue_ne hy rfl
  have hbs : unescape (0x25 :: 0x2B :: l :: bs) = 0x25 :: 0x2B :: l :: unescape bs := by
    have hnone : escapeByte 0x25 0x2B l = none := rfl
    rw [unescape, hnone]
    dsimp only
    rw [unescape_cons_of_ne (by decide), unescape_cons_of_ne hl]
  refine ⟨fun hnot => absurd hsigned hnot, fun _ => ?_, ?_⟩
  · have hle := h.length_le
    rw [hbs]
    simp only [List.length_cons]
    omega
  · have hlt : y < 16 := ParseInt.digitValue_lt hy
    have hbyte : isHigh (UInt8.ofNat y) = false := by
      rw [isHigh, toNat_ofNat_of_lt (by omega)]
      exact decide_eq_false (by omega)
    have hpercent : isHigh 0x25 = false := rfl
    have hplus : isHigh 0x2B = false := rfl
    simp only [hbs, List.countP_cons, isHighChar_charOfByte, hbyte, hpercent, hplus,
      isHigh_of_hexValue hy, h.countP_eq]
    rfl

/-- **The loop**, by its own recursion. -/
theorem go_spec (bs : List UInt8) : GoSpec bs (percentDecode.go bs) := by
  fun_induction percentDecode.go bs with
  | case1 b h l bs byte hbyte ih =>
    split at hbyte
    · subst b
      rcases hexByte_eq_some.mp hbyte with ⟨x, y, hx, hy, rfl⟩ | ⟨rfl, y, hy, rfl⟩
      · have hescape := escapeByte_eq_some.mpr ⟨rfl, x, y, hx, hy, rfl⟩
        exact ih.cons (by rw [unescape, hescape]) (signed_escape hx hy)
      · exact ih.sign hy
    · cases hbyte
  | case2 b h l bs hnone ih =>
    have hescape : escapeByte b h l = none := by
      refine Option.eq_none_iff_forall_ne_some.mpr fun byte hbyte => ?_
      obtain ⟨rfl, hdigits⟩ := escapeByte_eq_some.mp hbyte
      rw [if_pos rfl, hexByte_eq_some.mpr (.inl hdigits)] at hnone
      cases hnone
    refine ih.cons (by rw [unescape, hescape]) ?_
    rw [signed_cons, or_iff_right]
    rintro ⟨l', x, hx, hpre⟩
    simp only [List.cons_prefix_cons, List.nil_prefix, and_true] at hpre
    obtain ⟨rfl, rfl, rfl⟩ := hpre
    rw [if_pos rfl, hexByte_eq_some.mpr (.inr ⟨rfl, x, hx, rfl⟩)] at hnone
    cases hnone
  | case3 bs hshort =>
    have hlen : bs.length < 3 := by
      rcases bs with - | ⟨b, - | ⟨h, - | ⟨l, bs⟩⟩⟩
      · exact Nat.zero_lt_succ _
      · simp
      · simp
      · exact (hshort b h l bs rfl).elim
    have hbs : unescape bs = bs := unescape_of_length_lt hlen
    refine ⟨fun _ => by rw [hbs], fun hsigned => ?_, by rw [hbs, countP_map_charOfByte]⟩
    exact absurd hsigned (not_signed_of_length_lt hlen)

/-- Every character that comes out is the one of a byte. -/
theorem go_lt (bs : List UInt8) : ∀ c ∈ percentDecode.go bs, c.toNat < 256 := by
  have hlt (b : UInt8) : (charOfByte b).toNat < 256 := (toNat_charOfByte b).trans_lt b.toNat_lt
  fun_induction percentDecode.go bs with
  | case1 b h l bs byte hbyte ih => exact List.forall_mem_cons.mpr ⟨hlt byte, ih⟩
  | case2 b h l bs hnone ih => exact List.forall_mem_cons.mpr ⟨hlt b, ih⟩
  | case3 bs hshort =>
    intro c hc
    obtain ⟨b, -, rfl⟩ := List.mem_map.mp hc
    exact hlt b

/-! ### The text that is decoded -/

section Text

variable {s t : String}

/-- **The decoder returns the text** that the bytes encode exactly when they are ASCII and
no sign is taken for a digit. -/
theorem percentDecode_eq_iff (h : unescape (encode s) = encode t) :
    percentDecode s = t ↔ (∀ b ∈ encode t, isHigh b = false) ∧ ¬Signed (encode s) := by
  have hspec := go_spec (encode s)
  constructor
  · rintro rfl
    have hbytes : unescape (encode s) =
        (percentDecode.go (encode s)).flatMap String.utf8EncodeChar := by
      rw [h, encode, percentDecode, String.toList_ofList]
    obtain ⟨hcount, hlength⟩ := countP_flatMap_latin (go_lt (encode s))
    rw [← hbytes] at hcount hlength
    have hcountP := hspec.countP_eq
    have hzero : (unescape (encode s)).countP isHigh = 0 := by omega
    refine ⟨fun b hb => ?_, fun hsigned => ?_⟩
    · rw [← h] at hb
      exact Bool.eq_false_of_not_eq_true (List.countP_eq_zero.mp hzero b hb)
    · have hlt := hspec.length_lt hsigned
      omega
  · rintro ⟨hascii, hsigned⟩
    refine encode_inj ?_
    rw [percentDecode, hspec.eq_map hsigned, h]
    exact encode_ofList_ascii hascii

/-- The property of the decoder: when the bytes behind the escapes are the encoding of a
text, it returns this text. -/
def DecodesPercent (s : String) : Prop :=
  ∀ t, unescape (encode s) = encode t → percentDecode s = t

/-- **A string is decoded** exactly when the bytes behind its escapes encode no text, or are
ASCII and no sign in it is taken for a digit. -/
theorem percentDecode_iff (s : String) : DecodesPercent s ↔
    (∀ t, unescape (encode s) ≠ encode t) ∨
      (∀ b ∈ unescape (encode s), isHigh b = false) ∧ ¬Signed (encode s) := by
  by_cases hvalid : ∃ t, unescape (encode s) = encode t
  · obtain ⟨t, ht⟩ := hvalid
    rw [or_iff_right fun hall => hall t ht, ht, ← percentDecode_eq_iff ht]
    constructor
    · exact fun hdecodes => hdecodes t ht
    · intro heq t' ht'
      rw [heq]
      exact encode_inj (ht.symm.trans ht')
  · rw [or_iff_left_of_imp fun _ t ht => hvalid ⟨t, ht⟩]
    exact ⟨fun _ t ht => hvalid ⟨t, ht⟩, fun hall t ht => absurd ht (hall t)⟩

/-- The escapes of an accented letter, which are read as two letters. -/
theorem not_decodesPercent_accent : ¬DecodesPercent "%C3%A9" := by
  intro h
  have heq := h "é" (by decide)
  exact absurd heq (by decide)

/-- **A string without percent signs** is returned as it is if it is ASCII. -/
theorem percentDecode_self_iff (h : 0x25 ∉ encode s) :
    percentDecode s = s ↔ ∀ b ∈ encode s, isHigh b = false := by
  rw [percentDecode_eq_iff (unescape_of_not_mem h), and_iff_left_iff_imp]
  rintro - ⟨l, -, -, hsub⟩
  exact h (hsub.mem List.mem_cons_self)

/-- A text whose percent signs are all escaped has no sign behind one. -/
theorem not_signed_of_escapes {plain : UInt8 → Prop} {bs word : List UInt8} (hplain : ¬plain 0x25)
    (h : Escapes plain bs word) : ¬Signed word := by
  induction h with
  | nil => exact not_signed_of_length_lt (by decide)
  | @plain b _ _ hb _ ih =>
    have hne : b ≠ 0x25 := by
      rintro rfl
      exact hplain hb
    exact mt (signed_cons_of_ne hne).mp ih
  | escape hescape _ ih =>
    obtain ⟨-, x, y, hx, hy, -⟩ := escapeByte_eq_some.mp hescape
    exact mt (signed_escape hx hy).mp ih

/-- **A text that has been percent-encoded** is read back if it is ASCII. -/
theorem percentDecode_escapes_iff {plain : UInt8 → Prop} (hplain : ¬plain 0x25)
    (h : Escapes plain (encode t) (encode s)) :
    percentDecode s = t ↔ ∀ b ∈ encode t, isHigh b = false := by
  rw [percentDecode_eq_iff (h.unescape_eq hplain), and_iff_left_iff_imp]
  exact fun _ => not_signed_of_escapes hplain h

/-- The usual encoding is one of them. -/
theorem percentDecode_percentEncode_iff (t : String) :
    percentDecode (percentEncode t) = t ↔ ∀ b ∈ encode t, isHigh b = false :=
  percentDecode_escapes_iff (by decide) (escapes_percentEncode t)

end Text

end CubridDriver
