import Mathlib.Tactic.Common

/-!
# Validating and decoding UTF-8

A decoder for UTF-8 that reports where and how a byte sequence fails to be valid:
the position up to which it is, and how many bytes the bad sequence has, or that the
input ends in the middle of one. It rejects what the standard rejects: overlong
forms, surrogates and values beyond the last code point.

`Utf8.decode_encode` says that it reads back what is encoded, and `Utf8.decode_eq_ok`
that it reads nothing else.
-/

namespace Utf8

/-- Where a byte sequence fails to be valid UTF-8. -/
structure DecodeError where
  /-- The position up to which the input is valid. -/
  validUpTo : ℕ
  /-- The length of the invalid sequence; `none` when the input ends too early. -/
  errorLen : Option ℕ
  deriving DecidableEq, Repr

/-- The message of an error. -/
def DecodeError.message (e : DecodeError) : String :=
  match e.errorLen with
  | some n =>
      "invalid utf-8 sequence of " ++ toString n ++ " bytes from index " ++ toString e.validUpTo
  | none => "incomplete utf-8 byte sequence from index " ++ toString e.validUpTo

/-! ### Decoding -/

/-- The length of a sequence by its first byte, and zero for a byte that starts none. -/
def width (first : UInt8) : ℕ :=
  if first.toNat ≤ 0x7F then 1
  else if 0xC2 ≤ first.toNat ∧ first.toNat ≤ 0xDF then 2
  else if 0xE0 ≤ first.toNat ∧ first.toNat ≤ 0xEF then 3
  else if 0xF0 ≤ first.toNat ∧ first.toNat ≤ 0xF4 then 4
  else 0

/-- A continuation byte. -/
def isCont (b : UInt8) : Bool := 0x80 ≤ b.toNat && b.toNat ≤ 0xBF

/-- A continuation byte that may follow this first byte: neither an overlong form nor a
surrogate nor a value beyond the last code point comes out. -/
def isSecond (first b : UInt8) : Bool :=
  isCont b && (first.toNat ≠ 0xE0 || 0xA0 ≤ b.toNat) && (first.toNat ≠ 0xED || b.toNat ≤ 0x9F) &&
    (first.toNat ≠ 0xF0 || 0x90 ≤ b.toNat) && (first.toNat ≠ 0xF4 || b.toNat ≤ 0x8F)

/-- The characters of a byte sequence, which is found at position `i` of the input. -/
def decodeFrom (i : ℕ) : List UInt8 → Except DecodeError (List Char)
  | [] => .ok []
  | b :: bs =>
      match width b with
      | 1 => return Char.ofNat b.toNat :: (← decodeFrom (i + 1) bs)
      | 2 =>
          match bs with
          | [] => .error ⟨i, none⟩
          | c₁ :: bs =>
              if isSecond b c₁ then
                return Char.ofNat (b.toNat % 32 * 64 + c₁.toNat % 64) :: (← decodeFrom (i + 2) bs)
              else .error ⟨i, some 1⟩
      | 3 =>
          match bs with
          | [] => .error ⟨i, none⟩
          | c₁ :: bs =>
              if isSecond b c₁ then
                match bs with
                | [] => .error ⟨i, none⟩
                | c₂ :: bs =>
                    if isCont c₂ then
                      return Char.ofNat (b.toNat % 16 * 4096 + c₁.toNat % 64 * 64 +
                          c₂.toNat % 64) ::
                        (← decodeFrom (i + 3) bs)
                    else .error ⟨i, some 2⟩
              else .error ⟨i, some 1⟩
      | 4 =>
          match bs with
          | [] => .error ⟨i, none⟩
          | c₁ :: bs =>
              if isSecond b c₁ then
                match bs with
                | [] => .error ⟨i, none⟩
                | c₂ :: bs =>
                    if isCont c₂ then
                      match bs with
                      | [] => .error ⟨i, none⟩
                      | c₃ :: bs =>
                          if isCont c₃ then
                            return Char.ofNat (b.toNat % 8 * 262144 + c₁.toNat % 64 * 4096 +
                                c₂.toNat % 64 * 64 + c₃.toNat % 64) ::
                              (← decodeFrom (i + 4) bs)
                          else .error ⟨i, some 3⟩
                    else .error ⟨i, some 2⟩
              else .error ⟨i, some 1⟩
      | _ => .error ⟨i, some 1⟩

/-- The string a byte sequence encodes. -/
def decode (bs : List UInt8) : Except DecodeError String :=
  (decodeFrom 0 bs).map String.ofList

/-- The bytes of a string. -/
def encode (s : String) : List UInt8 := s.toList.flatMap String.utf8EncodeChar

/-! ### The round trip -/

theorem toNat_ofNat_of_lt {n : ℕ} (h : n < 256) : (UInt8.ofNat n).toNat = n := by
  rw [UInt8.toNat_ofNat']
  omega

theorem width_eq_one {b : UInt8} (h : b.toNat ≤ 0x7F) : width b = 1 := by
  rw [width, if_pos h]

theorem width_eq_two {b : UInt8} (h : 0xC2 ≤ b.toNat ∧ b.toNat ≤ 0xDF) : width b = 2 := by
  rw [width, if_neg (by omega), if_pos h]

theorem width_eq_three {b : UInt8} (h : 0xE0 ≤ b.toNat ∧ b.toNat ≤ 0xEF) : width b = 3 := by
  rw [width, if_neg (by omega), if_neg (by omega), if_pos h]

theorem width_eq_four {b : UInt8} (h : 0xF0 ≤ b.toNat ∧ b.toNat ≤ 0xF4) : width b = 4 := by
  rw [width, if_neg (by omega), if_neg (by omega), if_neg (by omega), if_pos h]

section Sequences

variable {i : ℕ} {b c₁ c₂ c₃ : UInt8} {bs : List UInt8}

theorem decodeFrom_one (hb : width b = 1) :
    decodeFrom i (b :: bs) = (Char.ofNat b.toNat :: ·) <$> decodeFrom (i + 1) bs := by
  rw [decodeFrom.eq_def]
  simp only [hb]
  rfl

theorem decodeFrom_two (hb : width b = 2) (h₁ : isSecond b c₁ = true) :
    decodeFrom i (b :: c₁ :: bs) =
      (Char.ofNat (b.toNat % 32 * 64 + c₁.toNat % 64) :: ·) <$> decodeFrom (i + 2) bs := by
  rw [decodeFrom.eq_def]
  simp only [hb, h₁, if_true]
  rfl

theorem decodeFrom_three (hb : width b = 3) (h₁ : isSecond b c₁ = true) (h₂ : isCont c₂ = true) :
    decodeFrom i (b :: c₁ :: c₂ :: bs) =
      (Char.ofNat (b.toNat % 16 * 4096 + c₁.toNat % 64 * 64 + c₂.toNat % 64) :: ·) <$>
        decodeFrom (i + 3) bs := by
  rw [decodeFrom.eq_def]
  simp only [hb, h₁, h₂, if_true]
  rfl

theorem decodeFrom_four (hb : width b = 4) (h₁ : isSecond b c₁ = true) (h₂ : isCont c₂ = true)
    (h₃ : isCont c₃ = true) :
    decodeFrom i (b :: c₁ :: c₂ :: c₃ :: bs) =
      (Char.ofNat (b.toNat % 8 * 262144 + c₁.toNat % 64 * 4096 + c₂.toNat % 64 * 64 +
        c₃.toNat % 64) :: ·) <$> decodeFrom (i + 4) bs := by
  rw [decodeFrom.eq_def]
  simp only [hb, h₁, h₂, h₃, if_true]
  rfl

end Sequences

/-- The bytes of a character, by its code point. -/
theorem utf8EncodeChar_eq {c : Char} {v : ℕ} (hv : c.toNat = v) : String.utf8EncodeChar c =
    if v ≤ 0x7F then [UInt8.ofNat v]
    else if v ≤ 0x7FF then [UInt8.ofNat (v / 64 % 32 + 0xC0), UInt8.ofNat (v % 64 + 0x80)]
    else if v ≤ 0xFFFF then [UInt8.ofNat (v / 4096 % 16 + 0xE0),
      UInt8.ofNat (v / 64 % 64 + 0x80), UInt8.ofNat (v % 64 + 0x80)]
    else [UInt8.ofNat (v / 262144 % 8 + 0xF0), UInt8.ofNat (v / 4096 % 64 + 0x80),
      UInt8.ofNat (v / 64 % 64 + 0x80), UInt8.ofNat (v % 64 + 0x80)] := hv ▸ rfl

/-- Only the null character has a zero byte. -/
theorem eq_nul_of_zero_mem {c : Char} (h : 0 ∈ String.utf8EncodeChar c) : c = '\x00' := by
  have hbyte {n : ℕ} (hn : n < 256) (hzero : 0 = UInt8.ofNat n) : n = 0 := by
    rw [← toNat_ofNat_of_lt hn, ← hzero]
    rfl
  obtain ⟨v, hv⟩ : ∃ v, c.toNat = v := ⟨_, rfl⟩
  rw [utf8EncodeChar_eq hv] at h
  split_ifs at h with h₁
  · obtain rfl : v = 0 := hbyte (by omega) (List.mem_singleton.mp h)
    rw [← Char.ofNat_toNat c, hv]
  all_goals simp only [List.mem_cons, List.not_mem_nil, or_false] at h
  · rcases h with h | h <;> exact absurd (hbyte (by omega) h) (by omega)
  · rcases h with h | h | h <;> exact absurd (hbyte (by omega) h) (by omega)
  · rcases h with h | h | h | h <;> exact absurd (hbyte (by omega) h) (by omega)

/-- The bytes of a character other than the null character do not end in a zero. -/
theorem utf8EncodeChar_last {c : Char} (h : c ≠ '\x00') :
    ∃ bs b, String.utf8EncodeChar c = bs ++ [b] ∧ b ≠ 0 := by
  rcases List.eq_nil_or_concat (String.utf8EncodeChar c) with hnil | ⟨bs, b, hbs⟩
  · exact absurd hnil (String.utf8EncodeChar_ne_nil)
  · rw [List.concat_eq_append] at hbs
    refine ⟨bs, b, hbs, ?_⟩
    rintro rfl
    exact h (eq_nul_of_zero_mem (by rw [hbs]; simp))

theorem encode_append (s t : String) : encode (s ++ t) = encode s ++ encode t := by
  rw [encode, String.toList_append, List.flatMap_append]
  rfl

theorem encode_nuls (n : ℕ) :
    encode (String.ofList (List.replicate n '\x00')) = List.replicate n 0 := by
  rw [encode, String.toList_ofList]
  induction n with
  | zero => rfl
  | succ n ih => rw [List.replicate_succ, List.flatMap_cons, ih]; rfl

/-- A text ends in a zero byte just when it ends in a null character. -/
theorem getLast?_encode_eq_zero {s : String} :
    (encode s).getLast? = some 0 ↔ s.toList.getLast? = some '\x00' := by
  rw [encode]
  rcases List.eq_nil_or_concat s.toList with hnil | ⟨cs, c, hcs⟩
  · simp [hnil]
  · rw [List.concat_eq_append] at hcs
    rw [hcs, List.flatMap_append, List.flatMap_singleton, List.getLast?_concat, Option.some.injEq]
    by_cases hc : c = '\x00'
    · have hnul : String.utf8EncodeChar c = [0] := by rw [hc]; rfl
      rw [hnul, List.getLast?_concat]
      exact iff_of_true rfl hc
    · obtain ⟨bs, b, hbs, hb⟩ := utf8EncodeChar_last hc
      rw [hbs, ← List.append_assoc, List.getLast?_concat, Option.some.injEq]
      exact iff_of_false hb hc

/-- **A second byte**: what it carries keeps the sequence out of the overlong forms, the
surrogates and the values beyond the last code point. -/
theorem isSecond_ofNat {b v : ℕ} (hb : b < 256) (hv : v < 64)
    (h : (b = 0xE0 → 0x20 ≤ v) ∧ (b = 0xED → v < 0x20) ∧ (b = 0xF0 → 0x10 ≤ v) ∧
      (b = 0xF4 → v < 0x10)) :
    isSecond (UInt8.ofNat b) (UInt8.ofNat (v + 0x80)) = true := by
  have hv' : v + 0x80 < 256 := by omega
  simp only [isSecond, isCont, toNat_ofNat_of_lt hb, toNat_ofNat_of_lt hv', Bool.and_eq_true,
    Bool.or_eq_true, decide_eq_true_eq]
  omega

/-- **One character is read back**, whatever follows. -/
theorem decodeFrom_utf8EncodeChar (i : ℕ) (c : Char) (bs : List UInt8) :
    ∃ j, decodeFrom i (String.utf8EncodeChar c ++ bs) = (c :: ·) <$> decodeFrom j bs := by
  have hvalid : c.toNat < 0xD800 ∨ 0xDFFF < c.toNat ∧ c.toNat < 0x110000 := c.valid
  have hchar : ∀ n, n = c.toNat → Char.ofNat n = c := fun n hn => hn ▸ Char.ofNat_toNat c
  have hcont : ∀ n, isCont (UInt8.ofNat (n % 64 + 0x80)) = true := fun n => by
    rw [isCont, toNat_ofNat_of_lt (by omega), Bool.and_eq_true, decide_eq_true_iff,
      decide_eq_true_iff]
    omega
  obtain ⟨v, hv⟩ : ∃ v, c.toNat = v := ⟨_, rfl⟩
  rw [hv] at hvalid hchar
  rw [utf8EncodeChar_eq hv]
  -- one case for each width; from the second byte on the bytes are continuations, and the
  -- range of `c` rules out the overlong forms and the surrogates
  split_ifs with h₁ h₂ h₃ <;> simp only [List.cons_append, List.nil_append]
  · have hb : (UInt8.ofNat v).toNat = v := toNat_ofNat_of_lt (by omega)
    refine ⟨i + 1, (decodeFrom_one (width_eq_one (by omega))).trans ?_⟩
    rw [hb, hchar v rfl]
  · have hb := toNat_ofNat_of_lt (show v / 64 % 32 + 0xC0 < 256 by omega)
    have hc₁ := toNat_ofNat_of_lt (show v % 64 + 0x80 < 256 by omega)
    have hsecond := isSecond_ofNat (show v / 64 % 32 + 0xC0 < 256 by omega)
      (show v % 64 < 64 by omega) (by omega)
    refine ⟨i + 2, (decodeFrom_two (width_eq_two (by omega)) hsecond).trans ?_⟩
    rw [hb, hc₁, hchar _ (by omega)]
  · have hb := toNat_ofNat_of_lt (show v / 4096 % 16 + 0xE0 < 256 by omega)
    have hc₁ := toNat_ofNat_of_lt (show v / 64 % 64 + 0x80 < 256 by omega)
    have hc₂ := toNat_ofNat_of_lt (show v % 64 + 0x80 < 256 by omega)
    have hsecond := isSecond_ofNat (show v / 4096 % 16 + 0xE0 < 256 by omega)
      (show v / 64 % 64 < 64 by omega) (by omega)
    refine ⟨i + 3, (decodeFrom_three (width_eq_three (by omega)) hsecond (hcont _)).trans ?_⟩
    rw [hb, hc₁, hc₂, hchar _ (by omega)]
  · have hb := toNat_ofNat_of_lt (show v / 262144 % 8 + 0xF0 < 256 by omega)
    have hc₁ := toNat_ofNat_of_lt (show v / 4096 % 64 + 0x80 < 256 by omega)
    have hc₂ := toNat_ofNat_of_lt (show v / 64 % 64 + 0x80 < 256 by omega)
    have hc₃ := toNat_ofNat_of_lt (show v % 64 + 0x80 < 256 by omega)
    have hsecond := isSecond_ofNat (show v / 262144 % 8 + 0xF0 < 256 by omega)
      (show v / 4096 % 64 < 64 by omega) (by omega)
    refine ⟨i + 4,
      (decodeFrom_four (width_eq_four (by omega)) hsecond (hcont _) (hcont _)).trans ?_⟩
    rw [hb, hc₁, hc₂, hc₃, hchar _ (by omega)]

theorem decodeFrom_flatMap (cs : List Char) (i : ℕ) :
    decodeFrom i (cs.flatMap String.utf8EncodeChar) = .ok cs := by
  induction cs generalizing i with
  | nil => rfl
  | cons c cs ih =>
    obtain ⟨j, hj⟩ := decodeFrom_utf8EncodeChar i c (cs.flatMap String.utf8EncodeChar)
    rw [List.flatMap_cons, hj, ih]
    rfl

/-- **What is encoded is read back.** -/
theorem decode_encode (s : String) : decode (encode s) = .ok s := by
  rw [decode, encode, decodeFrom_flatMap]
  exact congrArg Except.ok String.ofList_toList

/-! ### Only encodings are decoded -/

/-- A code point is the one of its character. -/
theorem toNat_charOfNat {n : ℕ} (h : n.isValidChar) : (Char.ofNat n).toNat = n := by
  rw [Char.ofNat, dif_pos h]
  exact UInt32.toNat_ofNatLT ..

theorem ofNat_eq {b : UInt8} {n : ℕ} (h : b.toNat = n) : UInt8.ofNat n = b := by
  rw [← h, UInt8.ofNat_toNat]

/-- The first bytes, by the length of their sequences. -/
theorem width_cases (b : UInt8) : width b = 0 ∨ (width b = 1 ∧ b.toNat ≤ 0x7F) ∨
    (width b = 2 ∧ 0xC2 ≤ b.toNat ∧ b.toNat ≤ 0xDF) ∨
    (width b = 3 ∧ 0xE0 ≤ b.toNat ∧ b.toNat ≤ 0xEF) ∨
    (width b = 4 ∧ 0xF0 ≤ b.toNat ∧ b.toNat ≤ 0xF4) := by
  rw [width]
  split_ifs <;> omega

section Sequences

variable {b c₁ c₂ c₃ : UInt8}

theorem isCont_iff : isCont b = true ↔ 0x80 ≤ b.toNat ∧ b.toNat ≤ 0xBF := by
  rw [isCont, Bool.and_eq_true, decide_eq_true_iff, decide_eq_true_iff]

theorem isSecond_iff : isSecond b c₁ = true ↔ (0x80 ≤ c₁.toNat ∧ c₁.toNat ≤ 0xBF) ∧
    (b.toNat = 0xE0 → 0xA0 ≤ c₁.toNat) ∧ (b.toNat = 0xED → c₁.toNat ≤ 0x9F) ∧
    (b.toNat = 0xF0 → 0x90 ≤ c₁.toNat) ∧ (b.toNat = 0xF4 → c₁.toNat ≤ 0x8F) := by
  simp only [isSecond, isCont, Bool.and_eq_true, Bool.or_eq_true, decide_eq_true_eq]
  omega

/-! What a sequence carries is encoded as the sequence: there is one lemma for each
length, and the conditions on the second byte put the code point in the range that
has this length. -/

theorem utf8EncodeChar_one (hb : b.toNat ≤ 0x7F) :
    String.utf8EncodeChar (Char.ofNat b.toNat) = [b] := by
  rw [utf8EncodeChar_eq (toNat_charOfNat (Or.inl (by omega))), if_pos hb, UInt8.ofNat_toNat]

theorem utf8EncodeChar_two (hb : 0xC2 ≤ b.toNat ∧ b.toNat ≤ 0xDF)
    (h₁ : isSecond b c₁ = true) :
    String.utf8EncodeChar (Char.ofNat (b.toNat % 32 * 64 + c₁.toNat % 64)) = [b, c₁] := by
  obtain ⟨hc₁, -⟩ := isSecond_iff.mp h₁
  rw [utf8EncodeChar_eq (toNat_charOfNat (Or.inl (by omega))), if_neg (by omega),
    if_pos (by omega), ofNat_eq (b := b) (by omega), ofNat_eq (b := c₁) (by omega)]

theorem utf8EncodeChar_three (hb : 0xE0 ≤ b.toNat ∧ b.toNat ≤ 0xEF)
    (h₁ : isSecond b c₁ = true) (h₂ : isCont c₂ = true) :
    String.utf8EncodeChar (Char.ofNat (b.toNat % 16 * 4096 + c₁.toNat % 64 * 64 +
      c₂.toNat % 64)) = [b, c₁, c₂] := by
  obtain ⟨hc₁, hlow, hsurrogate, -⟩ := isSecond_iff.mp h₁
  have hc₂ := isCont_iff.mp h₂
  have hvalid : (b.toNat % 16 * 4096 + c₁.toNat % 64 * 64 + c₂.toNat % 64).isValidChar := by
    rw [Nat.isValidChar]
    omega
  rw [utf8EncodeChar_eq (toNat_charOfNat hvalid), if_neg (by omega), if_neg (by omega),
    if_pos (by omega), ofNat_eq (b := b) (by omega), ofNat_eq (b := c₁) (by omega),
    ofNat_eq (b := c₂) (by omega)]

theorem utf8EncodeChar_four (hb : 0xF0 ≤ b.toNat ∧ b.toNat ≤ 0xF4)
    (h₁ : isSecond b c₁ = true) (h₂ : isCont c₂ = true) (h₃ : isCont c₃ = true) :
    String.utf8EncodeChar (Char.ofNat (b.toNat % 8 * 262144 + c₁.toNat % 64 * 4096 +
      c₂.toNat % 64 * 64 + c₃.toNat % 64)) = [b, c₁, c₂, c₃] := by
  obtain ⟨hc₁, -, -, hlow, hhigh⟩ := isSecond_iff.mp h₁
  have hc₂ := isCont_iff.mp h₂
  have hc₃ := isCont_iff.mp h₃
  have hvalid : (b.toNat % 8 * 262144 + c₁.toNat % 64 * 4096 + c₂.toNat % 64 * 64 +
      c₃.toNat % 64).isValidChar := by
    rw [Nat.isValidChar]
    omega
  rw [utf8EncodeChar_eq (toNat_charOfNat hvalid), if_neg (by omega), if_neg (by omega),
    if_neg (by omega), ofNat_eq (b := b) (by omega), ofNat_eq (b := c₁) (by omega),
    ofNat_eq (b := c₂) (by omega), ofNat_eq (b := c₃) (by omega)]

end Sequences

theorem exists_of_map_eq_ok {α β : Type} {x : Except DecodeError α} {f : α → β} {b : β}
    (h : f <$> x = .ok b) : ∃ a, x = .ok a ∧ f a = b := by
  cases x with
  | error e => cases h
  | ok a => exact ⟨a, rfl, Except.ok.inj h⟩

/-- **What is decoded begins with the bytes of a character.** -/
theorem decodeFrom_cons_eq_ok {i : ℕ} {b : UInt8} {bs : List UInt8} {cs : List Char}
    (h : decodeFrom i (b :: bs) = .ok cs) : ∃ j c bs' cs',
      b :: bs = String.utf8EncodeChar c ++ bs' ∧ decodeFrom j bs' = .ok cs' ∧ cs = c :: cs' := by
  rcases width_cases b with hb | ⟨hb, hr⟩ | ⟨hb, hr⟩ | ⟨hb, hr⟩ | ⟨hb, hr⟩
  · rw [decodeFrom.eq_def] at h
    simp [hb] at h
  · rw [decodeFrom_one hb] at h
    obtain ⟨cs', hcs', rfl⟩ := exists_of_map_eq_ok h
    exact ⟨_, _, bs, cs', by rw [utf8EncodeChar_one hr]; rfl, hcs', rfl⟩
  -- a longer sequence is decoded only when all of its bytes are there and are right
  · obtain ⟨c₁, bs, rfl, h₁⟩ : ∃ c₁ bs', bs = c₁ :: bs' ∧ isSecond b c₁ = true := by
      rw [decodeFrom.eq_def] at h
      rcases bs with _ | ⟨c₁, bs⟩
      · simp [hb] at h
      · by_cases h₁ : isSecond b c₁ = true
        · exact ⟨c₁, bs, rfl, h₁⟩
        · simp [hb, h₁] at h
    rw [decodeFrom_two hb h₁] at h
    obtain ⟨cs', hcs', rfl⟩ := exists_of_map_eq_ok h
    exact ⟨_, _, bs, cs', by rw [utf8EncodeChar_two hr h₁]; rfl, hcs', rfl⟩
  · obtain ⟨c₁, c₂, bs, rfl, h₁, h₂⟩ : ∃ c₁ c₂ bs', bs = c₁ :: c₂ :: bs' ∧
        isSecond b c₁ = true ∧ isCont c₂ = true := by
      rw [decodeFrom.eq_def] at h
      rcases bs with _ | ⟨c₁, _ | ⟨c₂, bs⟩⟩
      · simp [hb] at h
      · by_cases h₁ : isSecond b c₁ = true <;> simp [hb, h₁] at h
      · by_cases h₁ : isSecond b c₁ = true <;> by_cases h₂ : isCont c₂ = true
        · exact ⟨c₁, c₂, bs, rfl, h₁, h₂⟩
        all_goals simp [hb, h₁, h₂] at h
    rw [decodeFrom_three hb h₁ h₂] at h
    obtain ⟨cs', hcs', rfl⟩ := exists_of_map_eq_ok h
    exact ⟨_, _, bs, cs', by rw [utf8EncodeChar_three hr h₁ h₂]; rfl, hcs', rfl⟩
  · obtain ⟨c₁, c₂, c₃, bs, rfl, h₁, h₂, h₃⟩ : ∃ c₁ c₂ c₃ bs', bs = c₁ :: c₂ :: c₃ :: bs' ∧
        isSecond b c₁ = true ∧ isCont c₂ = true ∧ isCont c₃ = true := by
      rw [decodeFrom.eq_def] at h
      rcases bs with _ | ⟨c₁, _ | ⟨c₂, _ | ⟨c₃, bs⟩⟩⟩
      · simp [hb] at h
      · by_cases h₁ : isSecond b c₁ = true <;> simp [hb, h₁] at h
      · by_cases h₁ : isSecond b c₁ = true <;> by_cases h₂ : isCont c₂ = true
        all_goals simp [hb, h₁, h₂] at h
      · by_cases h₁ : isSecond b c₁ = true <;> by_cases h₂ : isCont c₂ = true <;>
          by_cases h₃ : isCont c₃ = true
        · exact ⟨c₁, c₂, c₃, bs, rfl, h₁, h₂, h₃⟩
        all_goals simp [hb, h₁, h₂, h₃] at h
    rw [decodeFrom_four hb h₁ h₂ h₃] at h
    obtain ⟨cs', hcs', rfl⟩ := exists_of_map_eq_ok h
    exact ⟨_, _, bs, cs', by rw [utf8EncodeChar_four hr h₁ h₂ h₃]; rfl, hcs', rfl⟩

/-- The characters that are decoded are encoded as the bytes. -/
theorem eq_flatMap_of_decodeFrom (cs : List Char) : ∀ {i : ℕ} {bs : List UInt8},
    decodeFrom i bs = .ok cs → bs = cs.flatMap String.utf8EncodeChar := by
  induction cs with
  | nil =>
    intro i bs h
    rcases bs with _ | ⟨b, bs⟩
    · rfl
    · obtain ⟨j, c, bs', cs', -, -, hcs⟩ := decodeFrom_cons_eq_ok h
      cases hcs
  | cons c cs ih =>
    intro i bs h
    rcases bs with _ | ⟨b, bs⟩
    · cases h
    · obtain ⟨j, c', bs', cs', hbs, hcs', hcs⟩ := decodeFrom_cons_eq_ok h
      obtain ⟨rfl, rfl⟩ := List.cons.inj hcs
      rw [hbs, List.flatMap_cons, ih hcs']

/-- **The byte sequences that are decoded** are the encodings of strings. -/
theorem decode_eq_ok {bs : List UInt8} {s : String} : decode bs = .ok s ↔ bs = encode s := by
  constructor
  · intro h
    rw [decode] at h
    cases hcs : decodeFrom 0 bs with
    | error e =>
      rw [hcs] at h
      cases h
    | ok cs =>
      rw [hcs] at h
      obtain rfl := Except.ok.inj h
      rw [encode, String.toList_ofList, ← eq_flatMap_of_decodeFrom cs hcs]
  · rintro rfl
    exact decode_encode s

/-- Different strings have different bytes. -/
theorem encode_inj {s t : String} (h : encode s = encode t) : s = t :=
  Except.ok.inj ((decode_encode s).symm.trans ((congrArg decode h).trans (decode_encode t)))

/-! ### One byte, one character -/

/-- The character with the code point of a byte. -/
def charOfByte (b : UInt8) : Char := Char.ofNat b.toNat

theorem toNat_charOfByte (b : UInt8) : (charOfByte b).toNat = b.toNat := by
  have hlt := b.toNat_lt
  exact toNat_charOfNat (.inl (by omega))

/-- A byte that is not ASCII. -/
def isHigh (b : UInt8) : Bool := 128 ≤ b.toNat

/-- A character that is not ASCII. -/
def isHighChar (c : Char) : Bool := 128 ≤ c.toNat

theorem isHighChar_charOfByte (b : UInt8) : isHighChar (charOfByte b) = isHigh b := by
  rw [isHighChar, isHigh, toNat_charOfByte]

/-- A character of ASCII has one byte. -/
theorem utf8EncodeChar_ascii {c : Char} (h : c.toNat < 128) :
    String.utf8EncodeChar c = [UInt8.ofNat c.toNat] := by
  rw [utf8EncodeChar_eq rfl, if_pos (by omega)]

/-- Texts of ASCII have one byte for each character. -/
theorem encode_ofList_ascii {bs : List UInt8} (h : ∀ b ∈ bs, isHigh b = false) :
    encode (String.ofList (bs.map charOfByte)) = bs := by
  rw [encode, String.toList_ofList, List.flatMap_map]
  induction bs with
  | nil => rfl
  | cons b bs ih =>
    obtain ⟨hb, hbs⟩ := List.forall_mem_cons.mp h
    have hlt : (charOfByte b).toNat < 128 := by
      rw [toNat_charOfByte]
      simpa [isHigh] using hb
    rw [List.flatMap_cons, ih hbs, utf8EncodeChar_ascii hlt, toNat_charOfByte, UInt8.ofNat_toNat]
    rfl

/-- Where the characters are ASCII, the bytes are. -/
theorem map_charOfByte_ascii {cs : List Char} (h : ∀ c ∈ cs, c.toNat < 128) :
    (cs.flatMap String.utf8EncodeChar).map charOfByte = cs ∧
      ∀ b ∈ cs.flatMap String.utf8EncodeChar, isHigh b = false := by
  induction cs with
  | nil => exact ⟨rfl, nofun⟩
  | cons c cs ih =>
    obtain ⟨hc, hcs⟩ := List.forall_mem_cons.mp h
    obtain ⟨hmap, hhigh⟩ := ih hcs
    have hnat : (UInt8.ofNat c.toNat).toNat = c.toNat := toNat_ofNat_of_lt (by omega)
    rw [List.flatMap_cons, utf8EncodeChar_ascii hc, List.singleton_append, List.map_cons, hmap]
    refine ⟨?_, List.forall_mem_cons.mpr ⟨?_, hhigh⟩⟩
    · rw [charOfByte, hnat, Char.ofNat_toNat]
    · rw [isHigh, hnat]
      exact decide_eq_false (by omega)

/-- **Characters below 256 that are not ASCII** have two bytes, which are not ASCII. -/
theorem countP_flatMap_latin {cs : List Char} (h : ∀ c ∈ cs, c.toNat < 256) :
    (cs.flatMap String.utf8EncodeChar).countP isHigh = 2 * cs.countP isHighChar ∧
      (cs.flatMap String.utf8EncodeChar).length = cs.length + cs.countP isHighChar := by
  induction cs with
  | nil => exact ⟨rfl, rfl⟩
  | cons c cs ih =>
    obtain ⟨hc, hcs⟩ := List.forall_mem_cons.mp h
    obtain ⟨hcount, hlength⟩ := ih hcs
    rw [List.flatMap_cons, List.countP_append, List.length_append, hcount, hlength,
      List.countP_cons, List.length_cons]
    by_cases hascii : c.toNat < 128
    · have hbyte : isHigh (UInt8.ofNat c.toNat) = false := by
        simpa [isHigh, toNat_ofNat_of_lt hc] using hascii
      have hchar : isHighChar c = false := by simpa [isHighChar] using hascii
      rw [utf8EncodeChar_ascii hascii, List.countP_singleton, hbyte, hchar]
      simp
      omega
    · have hchar : isHighChar c = true := by simpa [isHighChar] using hascii
      have hbytes : String.utf8EncodeChar c =
          [UInt8.ofNat (c.toNat / 64 % 32 + 0xC0), UInt8.ofNat (c.toNat % 64 + 0x80)] := by
        rw [utf8EncodeChar_eq rfl, if_neg (by omega), if_pos (by omega)]
      have hfirst : isHigh (UInt8.ofNat (c.toNat / 64 % 32 + 0xC0)) = true := by
        rw [isHigh, toNat_ofNat_of_lt (by omega)]
        simp
      have hsecond : isHigh (UInt8.ofNat (c.toNat % 64 + 0x80)) = true := by
        rw [isHigh, toNat_ofNat_of_lt (by omega)]
        simp
      rw [hbytes, List.countP_cons, List.countP_singleton, hfirst, hsecond, hchar]
      simp
      omega

end Utf8
