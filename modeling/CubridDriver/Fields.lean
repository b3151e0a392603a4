import CubridDriver.Lib.Cut
import CubridDriver.Readers

/-!
# Sequences of fields

Every message is a sequence of fields, and every message format rests on the same law: what
the methods of the writer write, one after another, the methods of the reader read, one
after another. There are two families of writing methods, with and without a length in
front, and one more for strings.

`CubridDriver.Item.read_written` is the law, for every sequence. Nothing is left of the
packet, and everything comes back as it was, but for the null characters at the end of a
string: they cannot be told from its terminator.
-/

namespace CubridDriver

open Checked PacketReader PacketWriter

/-! ### Fields -/

/-- The value of a field; a floating-point number is given by its bits. -/
inductive Field
  | byte (v : UInt8)
  | short (v : Int16)
  | int (v : Int32)
  | long (v : Int64)
  | float (bits : UInt32)
  | double (bits : UInt64)
  | bytes (v : List UInt8)
  deriving DecidableEq

/-- What a reader has to know of a field. -/
inductive FieldType
  | byte
  | short
  | int
  | long
  | float
  | double
  | bytes

namespace Field

/-- The type of a field. -/
def type : Field → FieldType
  | byte _ => .byte
  | short _ => .short
  | int _ => .int
  | long _ => .long
  | float _ => .float
  | double _ => .double
  | bytes _ => .bytes

/-- Write the field as it is. -/
def write : Field → List UInt8
  | byte v => writeByte v
  | short v => writeShort v
  | int v => writeInt v
  | long v => writeLong v
  | float bits => writeFloat bits
  | double bits => writeDouble bits
  | bytes v => writeRawBytes v

/-- Write the field with its length in front. -/
def add : Field → List UInt8
  | byte v => addByte v
  | short v => addShort v
  | int v => addInt v
  | long v => addLong v
  | float bits => addFloat bits
  | double bits => addDouble bits
  | bytes v => addBytes v

/-- **The length in front** is the one of the field. -/
theorem add_eq (field : Field) :
    field.add = writeInt (Int32.ofNat field.write.length) ++ field.write := by
  cases field with
  | byte v => rfl
  | short v => rw [write, length_writeShort]; rfl
  | int v => rw [write, length_writeInt]; rfl
  | long v => rw [write, length_writeLong]; rfl
  | float bits => rw [write, length_writeFloat]; rfl
  | double bits => rw [write, length_writeDouble]; rfl
  | bytes v => rfl

end Field

/-- Read a field of the type; raw bytes are read in this number. -/
def FieldType.read (count : ℕ) : FieldType → Parser Field
  | byte => do return .byte (← parseByte)
  | short => do return .short (← parseShort)
  | int => do return .int (← parseInt)
  | long => do return .long (← parseLong)
  | float => do return .float (← parseFloat)
  | double => do return .double (← parseDouble)
  | bytes => do return .bytes (← parseRawBytes count)

/-- **A field is read back.** -/
theorem decodes_write (field : Field) :
    Decodes (field.type.read field.write.length) field.write field := by
  cases field with
  | byte v => exact reads_map _ (decodes_parseByte v)
  | short v => exact reads_map _ (decodes_parseShort v)
  | int v => exact reads_map _ (decodes_parseInt v)
  | long v => exact reads_map _ (decodes_parseLong v)
  | float bits => exact reads_map _ (decodes_parseFloat bits)
  | double bits => exact reads_map _ (decodes_parseDouble bits)
  | bytes v => exact reads_map _ (decodes_parseRawBytes v)

/-! ### Strings -/

/-- The string without the null characters at its end. -/
def withoutNuls (s : String) : String := String.ofList (s.toList.rdropWhile (· = '\x00'))

theorem noTrailingNul_iff {s : String} :
    NoTrailingNul s ↔ s.toList.getLast? ≠ some '\x00' :=
  not_congr Utf8.getLast?_encode_eq_zero

theorem noTrailingNul_withoutNuls (s : String) : NoTrailingNul (withoutNuls s) := by
  rw [noTrailingNul_iff, withoutNuls, String.toList_ofList]
  by_cases hnil : s.toList.rdropWhile (· = '\x00') = []
  · rw [hnil]
    exact (Option.some_ne_none _).symm
  · rw [List.getLast?_eq_some_getLast hnil]
    intro hlast
    exact List.rdropWhile_last_not _ _ hnil (decide_eq_true (Option.some.inj hlast))

theorem exists_withoutNuls_append (s : String) :
    ∃ n, s = withoutNuls s ++ String.ofList (List.replicate n '\x00') := by
  obtain ⟨n, hn⟩ := List.exists_rdropWhile_append_replicate '\x00' s.toList
  refine ⟨n, ?_⟩
  rw [withoutNuls, ← String.ofList_append, ← hn, String.ofList_toList]

/-- Only a string that ends in a null character is changed. -/
theorem withoutNuls_eq_self_iff {s : String} : withoutNuls s = s ↔ NoTrailingNul s := by
  constructor
  · intro h
    rw [← h]
    exact noTrailingNul_withoutNuls s
  · intro h
    have hkeep : s.toList.rdropWhile (· = '\x00') = s.toList := by
      refine List.rdropWhile_eq_self_iff.mpr fun hne hlast => noTrailingNul_iff.mp h ?_
      rw [List.getLast?_eq_some_getLast hne, of_decide_eq_true hlast]
    rw [withoutNuls, hkeep, String.ofList_toList]

/-- **A string is read back**, but for the null characters at its end. -/
theorem decodes_nullTermString (s : String) :
    Decodes (parseNullTermString ((Utf8.encode s).length + 1)) (Utf8.encode s ++ [0])
      (withoutNuls s) := by
  obtain ⟨n, hn⟩ := exists_withoutNuls_append s
  have hbytes : Utf8.encode s ++ [0] =
      Utf8.encode (withoutNuls s) ++ List.replicate (n + 1) 0 := by
    rw [List.replicate_succ', ← List.append_assoc, ← Utf8.encode_nuls, ← Utf8.encode_append, ← hn]
  have hread := decodes_parseNullTermString (noTrailingNul_withoutNuls s) (n + 1)
  rwa [← hbytes, List.length_append, List.length_singleton] at hread

/-! ### Sequences -/

/-- A field that is written in one of the two ways, or a string. -/
inductive Item
  /-- The field as it is. -/
  | write (field : Field)
  /-- The field with its length in front. -/
  | add (field : Field)
  /-- A string. -/
  | string (s : String)
  deriving DecidableEq

/-- What a reader has to know of an item. Where there is no length in front, it knows how
many bytes there are. -/
inductive ItemType
  | write (type : FieldType) (count : ℕ)
  | add (type : FieldType)
  | string

/-- Read an item. -/
def ItemType.read : ItemType → Parser Item
  | write type count => do return .write (← type.read count)
  | add type => do
      let length ← parseInt
      return .add (← type.read (asUsize length))
  | string => do
      let length ← parseInt
      return .string (← parseNullTermString (asUsize length))

namespace Item

/-- The type of an item. -/
def type : Item → ItemType
  | write field => .write field.type field.write.length
  | add field => .add field.type
  | string _ => .string

/-- The bytes of an item. -/
def written : Item → List UInt8
  | write field => field.write
  | add field => field.add
  | string s => writeNullTermString s

/-- The length in front, if there is one, fits its field. -/
def Fits : Item → Prop
  | write _ => True
  | add field => field.write.length < 2 ^ 31
  | string s => (Utf8.encode s).length + 1 < 2 ^ 31

/-- What is read of it. -/
def readBack : Item → Item
  | string s => string (withoutNuls s)
  | item => item

theorem decodes_written {item : Item} (h : item.Fits) :
    Decodes item.type.read item.written item.readBack := by
  cases item with
  | write field => exact reads_map _ (decodes_write field)
  | add field =>
    have hread : Decodes (field.type.read (asUsize (Int32.ofNat field.write.length))) field.write
        field := by
      rw [asUsize_ofNat h]
      exact decodes_write field
    rw [written, Field.add_eq]
    exact reads_bind (decodes_parseInt _) (reads_map _ hread)
  | string s =>
    have hread : Decodes (parseNullTermString (asUsize (Int32.ofNat ((Utf8.encode s).length + 1))))
        (Utf8.encode s ++ [0]) (withoutNuls s) := by
      rw [asUsize_ofNat h]
      exact decodes_nullTermString s
    rw [written, writeNullTermString, List.append_assoc]
    exact reads_bind (decodes_parseInt _) (reads_map _ hread)

/-- An item comes back changed if it is a string that ends in a null character. -/
theorem readBack_eq_self_iff {item : Item} :
    item.readBack = item ↔ ∀ s, item = string s → NoTrailingNul s := by
  cases item with
  | write field => exact iff_of_true rfl nofun
  | add field => exact iff_of_true rfl nofun
  | string s =>
    rw [readBack, string.injEq, withoutNuls_eq_self_iff]
    constructor
    · rintro h _ heq
      exact string.inj heq ▸ h
    · exact fun h => h s rfl

/-- **The law of the writer and the reader.** What is written is read back to the end of the
packet, and unchanged if no string ends in a null character. -/
theorem read_written {items : List Item} (h : ∀ item ∈ items, item.Fits) {data : Bytes}
    (hdata : data.1 = (items.map written).flatten) :
    ∃ r, forEach ItemType.read (items.map type) (.new data) = .ok (items.map readBack, r) ∧
      r.remaining = 0 ∧
      (items.map readBack = items ↔ ∀ s, string s ∈ items → NoTrailingNul s) := by
  have hread : Decodes (forEach ItemType.read (items.map type)) (items.map written).flatten
      (items.map readBack) := reads_forEach fun item hitem => decodes_written (h item hitem)
  obtain ⟨r, hr, hempty⟩ := hread.packet (hdata.trans (List.append_nil _).symm)
  refine ⟨r, hr, hempty, ?_⟩
  constructor
  · intro hback s hs
    have hsame : ∀ item ∈ items, item.readBack = item :=
      List.map_eq_map_iff.mp (hback.trans (List.map_id' items).symm)
    exact readBack_eq_self_iff.mp (hsame _ hs) s rfl
  · intro hnul
    have hsame : ∀ item ∈ items, item.readBack = item := fun item hitem =>
      readBack_eq_self_iff.mpr fun s heq => hnul s (heq ▸ hitem)
    exact (List.map_congr_left hsame).trans (List.map_id' items)

/-- The length of a longer byte string is negative, and is read as more than there can be. -/
theorem forEach_add_oversize {bytes : List UInt8} (h : 2 ^ 31 ≤ bytes.length)
    (h' : bytes.length < 2 ^ 32) : ∃ (data : Bytes) (e : ProtocolError),
      data.1 = (add (.bytes bytes)).written ∧
      forEach ItemType.read [.add .bytes] (.new data) = .err e := by
  have hwritten : (add (.bytes bytes)).written =
      writeInt (Int32.ofNat bytes.length) ++ bytes := Field.add_eq (.bytes bytes)
  have hlen : (add (.bytes bytes)).written.length ≤ isizeMax := by
    rw [hwritten, List.length_append, length_writeInt, isizeMax]
    omega
  have hrest : (PacketReader.new ⟨_, hlen⟩).rest =
      writeInt (Int32.ofNat bytes.length) ++ bytes := (rest_new _).trans hwritten
  obtain ⟨r, hr, hvalid, -⟩ := decodes_parseInt _ _ _ (valid_new _) hrest
  have hshort : ¬asUsize (Int32.ofNat bytes.length) ≤ r.remaining := by
    have hhuge := isizeMax_lt_asUsize (toInt_ofNat_neg h h')
    have hdata : r.data.1.length ≤ isizeMax := r.data.2
    rw [remaining]
    omega
  have hitem : ItemType.read (.add .bytes) (.new ⟨_, hlen⟩) =
      .err (.unexpectedEof (asUsize (Int32.ofNat bytes.length)) r.remaining) := by
    rw [ItemType.read, bind_apply, hr, Outcome.ok_bind, FieldType.read, parseRawBytes,
      bind_apply, bind_apply, parseField_apply hvalid, if_neg hshort]
    rfl
  refine ⟨⟨_, hlen⟩, .unexpectedEof (asUsize (Int32.ofNat bytes.length)) r.remaining, rfl, ?_⟩
  rw [forEach, bind_apply, hitem]
  rfl

/-- A byte, a short with its length in front, two integers, raw bytes in both ways, and a
string. -/
def sevenItems : List Item :=
  [.write (.byte 0x42), .add (.short (-2)), .write (.int 56789), .add (.long (-1)),
    .write (.bytes [1, 2]), .add (.bytes []), .string "hello"]

/-- They are read back. -/
theorem read_written_seven : ∃ r, forEach ItemType.read (sevenItems.map type)
    (.new ⟨(sevenItems.map written).flatten, by decide⟩) = .ok (sevenItems, r) ∧
      r.remaining = 0 := by
  have hfits : ∀ item ∈ sevenItems, item.Fits := by
    simp only [sevenItems, List.forall_mem_cons, Fits]
    exact ⟨trivial, by decide, trivial, by decide, trivial, by decide, by decide,
      fun _ h => absurd h List.not_mem_nil⟩
  have hdata : (⟨(sevenItems.map written).flatten, by decide⟩ : Bytes).1 =
      (sevenItems.map written).flatten := rfl
  obtain ⟨r, hr, hempty, hback⟩ := read_written hfits hdata
  refine ⟨r, ?_, hempty⟩
  rwa [hback.mpr] at hr
  intro s hs
  obtain rfl : s = "hello" := by simpa [sevenItems] using hs
  exact noTrailingNul_iff.mpr (by decide)

/-- A string of one null character is read back as the empty string, and `2 ^ 31` raw bytes
with their length in front are not read back at all. -/
theorem read_nul_oversize :
    (∃ r, forEach ItemType.read [.string] (.new ⟨(string "\x00").written, by decide⟩) =
      .ok ([string ""], r)) ∧
    ∃ (data : Bytes) (e : ProtocolError),
      data.1 = (add (.bytes (List.replicate (2 ^ 31) 0))).written ∧
      forEach ItemType.read [.add .bytes] (.new data) = .err e := by
  have hbytes : (List.replicate (2 ^ 31) (0 : UInt8)).length = 2 ^ 31 := List.length_replicate
  exact ⟨⟨_, rfl⟩, forEach_add_oversize hbytes.ge (hbytes.trans_lt (by decide))⟩

end Item

end CubridDriver
