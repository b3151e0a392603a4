import CubridDriver.Codec

/-!
# What the readers do

Every method of the reader is *safe*: from a valid position it does not panic, and its
position stays valid. And it *decodes* what its writer writes: from a position where
the bytes of a value come next, it returns the value and stands behind them.

Both are proved of `CubridDriver.parseField` once, by `CubridDriver.parseField_apply`,
which says what it does; for the methods that read several fields they follow by the
rules of `Checked`.
-/

namespace CubridDriver

open Checked PacketReader PacketWriter

variable {α : Type}

/-! ### One field -/

/-- **What reading a field does**, from a valid position: none of its checks can fail
but the one for the end of the data. -/
theorem parseField_apply {r : PacketReader} (hr : r.Valid) (count : ℕ)
    (decode : List UInt8 → α) :
    parseField count decode r =
      if count ≤ r.remaining then .ok (decode (r.rest.take count), r.advance count)
      else .err (.unexpectedEof count r.remaining) := by
  have hmax : r.data.1.length ≤ isizeMax := r.data.2
  rw [parseField, bind_apply, ensure]
  split_ifs with h₁ h₂ h₂
  · omega
  · rfl
  -- the field is there: neither the index nor the addition can overflow, since the
  -- packet fits an allocation
  · have hpos : r.pos + count ≤ r.data.1.length := by
      rw [Valid] at hr
      rw [remaining] at h₂
      omega
    have hadd : r.pos + count ≤ usizeMax := by
      have := isizeMax_le_usizeMax
      omega
    rw [Outcome.ok_bind, bind_apply, index, if_pos hpos, Outcome.ok_bind, bind_apply, bump,
      if_pos hadd]
    rfl
  · omega

/-- A parser that never panics, and keeps its position valid. -/
def Safe (p : Parser α) : Prop := Triple Valid p fun _ => Valid

theorem safe_parseField (count : ℕ) (decode : List UInt8 → α) :
    Safe (parseField count decode) := by
  intro r hr
  rw [parseField_apply hr]
  split
  · refine ⟨nofun, fun a t h => ?_⟩
    obtain ⟨-, rfl⟩ := Prod.mk.inj (Outcome.ok.inj h)
    exact valid_advance hr ‹_›
  · exact ⟨nofun, fun a t h => nomatch h⟩

/-- The bytes of a value, followed by anything, are read as the value. -/
def Decodes (p : Parser α) (bs : List UInt8) (a : α) : Prop := Reads Valid rest p bs a

/-- **A packet that begins with the bytes of a value**: the value is read, and what follows
is left. -/
theorem Decodes.packet {p : Parser α} {bs left : List UInt8} {a : α} (h : Decodes p bs a)
    {data : Bytes} (hdata : data.1 = bs ++ left) :
    ∃ r, p (.new data) = .ok (a, r) ∧ r.remaining = left.length := by
  obtain ⟨r, hr, -, hleft⟩ := h (.new data) left (valid_new data) ((rest_new data).trans hdata)
  exact ⟨r, hr, by rw [← length_rest, hleft]⟩

theorem decodes_parseField {count : ℕ} {bs : List UInt8} (decode : List UInt8 → α)
    (h : bs.length = count) : Decodes (parseField count decode) bs (decode bs) := by
  intro r tail hr hrest
  have hlen := congrArg List.length hrest
  rw [length_rest, List.length_append, h] at hlen
  have htake : r.rest.take count = bs := by rw [hrest, ← h, List.take_left]
  refine ⟨r.advance count, ?_, valid_advance hr (by omega), ?_⟩
  · rw [parseField_apply hr, if_pos (by omega), htake]
  · rw [rest_advance, hrest, ← h, List.drop_left]

/-! ### Safe sequences -/

theorem safe_return (a : α) : Safe (pure a : Parser α) := triple_pure fun _ hr => hr

theorem safe_throw (e : ProtocolError) : Safe (throw e : Parser α) := triple_throw e

theorem safe_bind {β : Type} {p : Parser α} {f : α → Parser β} (hp : Safe p)
    (hf : ∀ a, Safe (f a)) : Safe (p >>= f) := triple_bind hp hf

theorem safe_ite {c : Prop} [Decidable c] {p q : Parser α} (hp : Safe p) (hq : Safe q) :
    Safe (if c then p else q) := triple_ite (fun _ => hp) fun _ => hq

/-- A step that leaves the reader alone. -/
theorem safe_lift {x : Outcome ProtocolError α} (h : x ≠ .panic) : Safe (lift x) := by
  intro r hr
  rw [lift]
  cases x with
  | ok a =>
    refine ⟨nofun, fun b t hb => ?_⟩
    obtain ⟨-, rfl⟩ := Prod.mk.inj (Outcome.ok.inj hb)
    exact hr
  | err e => exact ⟨nofun, fun b t hb => nomatch hb⟩
  | panic => exact absurd rfl h

theorem safe_getRemaining : Safe getRemaining := by
  intro r hr
  refine ⟨nofun, fun a t h => ?_⟩
  obtain ⟨-, rfl⟩ := Prod.mk.inj (Outcome.ok.inj h)
  exact hr

/-- **What comes after a field.** -/
theorem parseField_bind_eq_panic {β : Type} {r : PacketReader} (hr : r.Valid) (count : ℕ)
    (decode : List UInt8 → α) (f : α → Parser β) :
    (parseField count decode >>= f) r = .panic ↔
      count ≤ r.remaining ∧ f (decode (r.rest.take count)) (r.advance count) = .panic := by
  rw [bind_apply, parseField_apply hr]
  split_ifs with h <;> simp [h]

/-- Two descriptions of the bytes, and of the value, that are the same. -/
theorem Decodes.congr {p : Parser α} {bs : List UInt8} {a b : α} (h : Decodes p bs a)
    (hab : a = b) : Decodes p bs b := hab ▸ h

/-! ### The numbers -/

theorem safe_parseByte : Safe parseByte := safe_parseField _ _

theorem safe_parseShort : Safe parseShort := safe_parseField _ _

theorem safe_parseInt : Safe parseInt := safe_parseField _ _

theorem safe_parseLong : Safe parseLong := safe_parseField _ _

theorem safe_parseFloat : Safe parseFloat := safe_parseField _ _

theorem safe_parseDouble : Safe parseDouble := safe_parseField _ _

theorem safe_parseRawBytes (count : ℕ) : Safe (parseRawBytes count) := safe_parseField _ _

theorem safe_parseCasInfo : Safe parseCasInfo := safe_parseField _ _

/-- Raw bytes come in the number they were asked for. -/
theorem triple_parseRawBytes (count : ℕ) :
    Triple Valid (parseRawBytes count) fun bs r => bs.length = count ∧ r.Valid := by
  intro r hr
  obtain ⟨hsafe, hvalid⟩ := safe_parseRawBytes count r hr
  refine ⟨hsafe, fun bs t h => ⟨?_, hvalid bs t h⟩⟩
  rw [parseRawBytes, parseField_apply hr] at h
  split at h
  · obtain ⟨rfl, -⟩ := Prod.mk.inj (Outcome.ok.inj h)
    rw [id, List.length_take, length_rest]
    omega
  · cases h

theorem intOfBytes_writeInt (v : Int32) : intOfBytes (writeInt v) = v := by
  have hfit : v.toUInt32.toNat < 256 ^ 4 := v.toUInt32.toNat_lt
  rw [intOfBytes, writeInt, BigEndian.decode_encode hfit, UInt32.ofNat_toNat,
    Int32.toInt32_toUInt32]

theorem decodes_parseByte (b : UInt8) : Decodes parseByte [b] b :=
  (decodes_parseField _ rfl).congr (by simp [BigEndian.decode])

theorem decodes_parseShort (v : Int16) : Decodes parseShort (writeShort v) v := by
  refine (decodes_parseField _ (length_writeShort v)).congr ?_
  have hfit : v.toUInt16.toNat < 256 ^ 2 := v.toUInt16.toNat_lt
  rw [writeShort, BigEndian.decode_encode hfit, UInt16.ofNat_toNat, Int16.toInt16_toUInt16]

theorem decodes_parseInt (v : Int32) : Decodes parseInt (writeInt v) v :=
  (decodes_parseField _ (length_writeInt v)).congr (intOfBytes_writeInt v)

theorem decodes_parseLong (v : Int64) : Decodes parseLong (writeLong v) v := by
  refine (decodes_parseField _ (length_writeLong v)).congr ?_
  have hfit : v.toUInt64.toNat < 256 ^ 8 := v.toUInt64.toNat_lt
  rw [writeLong, BigEndian.decode_encode hfit, UInt64.ofNat_toNat, Int64.toInt64_toUInt64]

theorem decodes_parseFloat (bits : UInt32) : Decodes parseFloat (writeFloat bits) bits := by
  refine (decodes_parseField _ (length_writeFloat bits)).congr ?_
  have hfit : bits.toNat < 256 ^ 4 := bits.toNat_lt
  rw [writeFloat, BigEndian.decode_encode hfit, UInt32.ofNat_toNat]

theorem decodes_parseDouble (bits : UInt64) : Decodes parseDouble (writeDouble bits) bits := by
  refine (decodes_parseField _ (length_writeDouble bits)).congr ?_
  have hfit : bits.toNat < 256 ^ 8 := bits.toNat_lt
  rw [writeDouble, BigEndian.decode_encode hfit, UInt64.ofNat_toNat]

theorem decodes_parseRawBytes (bs : List UInt8) : Decodes (parseRawBytes bs.length) bs bs :=
  decodes_parseField id rfl

theorem decodes_parseCasInfo (info : CasInfo) : Decodes parseCasInfo info.toList info :=
  decodes_parseField _ rfl

/-! ### Skipping -/

theorem skip_apply {r : PacketReader} (hr : r.Valid) (count : ℕ) :
    skip count r = if count ≤ r.remaining then .ok ((), r.advance count)
      else .err (.unexpectedEof count r.remaining) := by
  have hmax : r.data.1.length ≤ isizeMax := r.data.2
  rw [skip, bind_apply, ensure]
  split_ifs with h₁ h₂ h₂
  · omega
  · rfl
  · have hadd : r.pos + count ≤ usizeMax := by
      rw [Valid] at hr
      rw [remaining] at h₂
      have := isizeMax_le_usizeMax
      omega
    rw [Outcome.ok_bind, bump, if_pos hadd]
    rfl
  · omega

/-- Skipping is reading a field of which nothing is kept. -/
theorem skip_eq_parseField {r : PacketReader} (hr : r.Valid) (count : ℕ) :
    skip count r = parseField count (fun _ => ()) r := by
  rw [skip_apply hr, parseField_apply hr]

theorem safe_skip (count : ℕ) : Safe (skip count) := by
  intro r hr
  rw [skip_eq_parseField hr]
  exact safe_parseField count _ r hr

theorem decodes_skip (bs : List UInt8) : Decodes (skip bs.length) bs () := by
  intro r tail hr hrest
  rw [skip_eq_parseField hr]
  exact decodes_parseField _ rfl r tail hr hrest

/-! ### Strings -/

theorem stringOfBytes_ne_panic (raw : List UInt8) : stringOfBytes raw ≠ .panic := by
  rw [stringOfBytes]
  split <;> nofun

theorem safe_parseNullTermString (length : ℕ) : Safe (parseNullTermString length) := by
  rw [parseNullTermString]
  refine safe_ite (safe_return _) (safe_bind (safe_parseField _ _) fun raw => ?_)
  exact safe_lift (stringOfBytes_ne_panic raw)

/-- A string that does not end with a null character, so that its terminators can be
told from it. -/
def NoTrailingNul (s : String) : Prop := (Utf8.encode s).getLast? ≠ some 0

/-- **Exactly the terminators are stripped.** -/
theorem stripNulls_append_replicate {s : String} (h : NoTrailingNul s) (n : ℕ) :
    stripNulls (Utf8.encode s ++ List.replicate n 0) = Utf8.encode s := by
  have hzeros : ∀ bs : List UInt8, (List.replicate n 0 ++ bs).dropWhile (fun b => decide (b = 0)) =
      bs.dropWhile fun b => decide (b = 0) := fun bs =>
    List.dropWhile_append_of_pos fun b hb => decide_eq_true (List.eq_of_mem_replicate hb)
  rw [NoTrailingNul, ← List.head?_reverse] at h
  rw [stripNulls, List.reverse_append, List.reverse_replicate, hzeros]
  cases hrev : (Utf8.encode s).reverse with
  | nil => simpa using hrev
  | cons b bs =>
    have hb : b ≠ 0 := by simpa [hrev] using h
    have hs : Utf8.encode s = (b :: bs).reverse := by rw [← hrev, List.reverse_reverse]
    rw [hs]
    simp [hb]

/-- **A string is read back**, with any number of terminators. -/
theorem decodes_parseNullTermString {s : String} (h : NoTrailingNul s) (n : ℕ) :
    Decodes (parseNullTermString (Utf8.encode s ++ List.replicate n 0).length)
      (Utf8.encode s ++ List.replicate n 0) s := by
  have hstring : stringOfBytes (Utf8.encode s ++ List.replicate n 0) = .ok s := by
    rw [stringOfBytes, stripNulls_append_replicate h, Utf8.decode_encode]
  generalize Utf8.encode s ++ List.replicate n 0 = raw at hstring
  rw [parseNullTermString]
  split
  · obtain rfl := List.length_eq_zero_iff.mp ‹raw.length = 0›
    have hempty : stringOfBytes [] = .ok "" := rfl
    obtain rfl := Outcome.ok.inj (hempty.symm.trans hstring)
    exact reads_pure ""
  · have hlift : Decodes (Checked.lift (stringOfBytes raw) : Parser String) [] s := by
      rw [hstring]
      exact reads_pure s
    have hread : Decodes (parseField raw.length id >>= fun raw => lift (stringOfBytes raw))
        (raw ++ []) s := reads_bind (decodes_parseField id rfl) hlift
    rwa [List.append_nil] at hread

/-! ### Errors and dates -/

theorem safe_readError (responseLength : ℕ) : Safe (readError responseLength) := by
  refine safe_bind safe_parseInt fun code => safe_bind ?_ fun _ => safe_return _
  exact safe_ite (safe_parseNullTermString _) (safe_return _)

theorem safe_parseDate : Safe parseDate := by
  refine safe_bind safe_parseShort fun year => ?_
  refine safe_bind safe_parseShort fun month => ?_
  exact safe_bind safe_parseShort fun day => safe_return _

theorem safe_parseTime : Safe parseTime := by
  refine safe_bind safe_parseShort fun hour => ?_
  refine safe_bind safe_parseShort fun minute => ?_
  exact safe_bind safe_parseShort fun second => safe_return _

theorem safe_parseTimestamp : Safe parseTimestamp := by
  refine safe_bind safe_parseShort fun year => ?_
  refine safe_bind safe_parseShort fun month => ?_
  refine safe_bind safe_parseShort fun day => ?_
  refine safe_bind safe_parseShort fun hour => ?_
  refine safe_bind safe_parseShort fun minute => ?_
  exact safe_bind safe_parseShort fun second => safe_return _

theorem safe_parseDatetime : Safe parseDatetime := by
  refine safe_bind safe_parseShort fun year => ?_
  refine safe_bind safe_parseShort fun month => ?_
  refine safe_bind safe_parseShort fun day => ?_
  refine safe_bind safe_parseShort fun hour => ?_
  refine safe_bind safe_parseShort fun minute => ?_
  refine safe_bind safe_parseShort fun second => ?_
  exact safe_bind safe_parseShort fun ms => safe_return _

end CubridDriver
