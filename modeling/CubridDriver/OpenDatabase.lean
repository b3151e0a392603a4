import CubridDriver.Request

/-!
# The open-database request

A client authenticates with one request of a fixed layout: three fields of 32 bytes, for
the names of the database and of the user and for the password, and zeros. A string that
is shorter than its field is padded with zeros, a longer one is cut off, wherever in a
character that is.

So the request stands for the first 32 bytes of each string, and for nothing less
(`CubridDriver.Credentials.request_eq_iff`): strings that fit their fields are read back, and
different ones never make the same request. `CubridDriver.Credentials.request_spec` says this
of the connections that are opened.
-/

namespace CubridDriver

open PacketWriter

/-! ### A field -/

/-- The text of a field: it ends at the first zero. -/
def fieldText (field : List UInt8) : List UInt8 := field.takeWhile (· ≠ 0)

theorem length_writeFixedString (s : String) (length : ℕ) :
    (writeFixedString s length).length = length := by
  rw [writeFixedString]
  split
  · rw [List.length_take]
    omega
  · rw [List.length_append, writeFiller, List.length_replicate]
    omega

/-- What is written of a string, followed by zeros. -/
def padded (bytes : List UInt8) (length : ℕ) : List UInt8 :=
  bytes ++ List.replicate (length - bytes.length) 0

/-- **A field holds the first bytes of its string**, and zeros. -/
theorem writeFixedString_eq (s : String) (length : ℕ) :
    writeFixedString s length = padded ((Utf8.encode s).take length) length := by
  rw [writeFixedString, padded, List.length_take]
  split
  · rw [Nat.min_eq_left ‹_›, Nat.sub_self]
    exact (List.append_nil _).symm
  · rw [List.take_of_length_le (by omega), Nat.min_eq_right (by omega)]
    rfl

/-- A string without a null character has no zero byte. -/
theorem zero_not_mem_encode {s : String} (h : '\x00' ∉ s.toList) : 0 ∉ Utf8.encode s := by
  intro hzero
  obtain ⟨c, hc, hbyte⟩ := List.mem_flatMap.mp hzero
  exact h (Utf8.eq_nul_of_zero_mem hbyte ▸ hc)

/-- **What a field stands for**: as much of the string as it holds. -/
theorem fieldText_writeFixedString {s : String} (h : '\x00' ∉ s.toList) (length : ℕ) :
    fieldText (writeFixedString s length) = (Utf8.encode s).take length := by
  have hnonzero : ∀ b ∈ (Utf8.encode s).take length, decide (b ≠ 0) = true := fun b hb =>
    decide_eq_true fun hzero => zero_not_mem_encode h (hzero ▸ List.mem_of_mem_take hb)
  rw [writeFixedString_eq, padded, fieldText, List.takeWhile_append_of_pos hnonzero,
    List.takeWhile_replicate, if_neg (by simp), List.append_nil]

/-! ### The request -/

/-- What a connection is opened with. None of it has a null character. -/
structure Credentials where
  /-- The database name. -/
  database : String
  /-- The user name. -/
  user : String
  /-- The password. -/
  password : String
  /-- There is no null character. -/
  noNul : ∀ s ∈ [database, user, password], '\x00' ∉ s.toList

namespace Credentials

/-- The strings, in the order of their fields. -/
def texts (c : Credentials) : List String := [c.database, c.user, c.password]

/-- The request. -/
def request (c : Credentials) : List UInt8 := writeOpenDatabase c.database c.user c.password

/-- What a field holds of each of the strings. -/
def sent (c : Credentials) : List (List UInt8) := c.texts.map fun s => (Utf8.encode s).take 32

/-- Every string fits its field. -/
def Fits (c : Credentials) : Prop := ∀ s ∈ c.texts, (Utf8.encode s).length ≤ 32

instance (c : Credentials) : Decidable c.Fits := List.decidableBAll ..

/-- The three fields of a request. -/
def fields (request : List UInt8) : List (List UInt8) :=
  [request.take 32, (request.drop 32).take 32, (request.drop 64).take 32]

section Layout

variable (c : Credentials)

/-- **The layout of the request**: the fields, and zeros. -/
theorem request_eq : c.request =
    writeFixedString c.database 32 ++ (writeFixedString c.user 32 ++
      (writeFixedString c.password 32 ++ List.replicate 532 0)) := by
  have hzeros : writeFiller DB_EXTENDED_SIZE ++ writeFiller DB_RESERVED_SIZE =
      List.replicate 532 0 := List.replicate_append_replicate
  rw [request, writeOpenDatabase, List.append_assoc _ _ (writeFiller DB_RESERVED_SIZE), hzeros,
    List.append_assoc, List.append_assoc]
  rfl

theorem fields_request : fields c.request = c.texts.map fun s => writeFixedString s 32 := by
  have hlen (s : String) : (writeFixedString s 32).length = 32 := length_writeFixedString s 32
  rw [request_eq, fields, List.take_left' (hlen _), List.drop_left' (hlen _),
    List.take_left' (hlen _), ← List.drop_drop (i := 32) (j := 32), List.drop_left' (hlen _),
    List.drop_left' (hlen _), List.take_left' (hlen _)]
  rfl

theorem length_request : c.request.length = DB_OPEN_PAYLOAD_SIZE := by
  rw [request_eq]
  simp only [List.length_append, length_writeFixedString, List.length_replicate]
  rfl

/-- The fields stand for the beginnings of the strings. -/
theorem map_fieldText_fields : (fields c.request).map fieldText = c.sent := by
  rw [fields_request, sent, List.map_map]
  exact List.map_congr_left fun s hs => fieldText_writeFixedString (c.noNul s hs) 32

end Layout

/-- The request says what the fields hold, and nothing else. -/
theorem request_eq_iff (c c' : Credentials) : c.request = c'.request ↔ c.sent = c'.sent := by
  constructor
  · intro h
    rw [← map_fieldText_fields, ← map_fieldText_fields, h]
  · intro h
    have hfields (c : Credentials) : [writeFixedString c.database 32, writeFixedString c.user 32,
        writeFixedString c.password 32] = c.sent.map fun bytes => padded bytes 32 := by
      simp only [sent, texts, List.map_cons, List.map_nil, writeFixedString_eq]
    have heq := (hfields c).trans ((congrArg _ h).trans (hfields c').symm)
    obtain ⟨hdatabase, heq⟩ := List.cons.inj heq
    obtain ⟨huser, heq⟩ := List.cons.inj heq
    obtain ⟨hpassword, -⟩ := List.cons.inj heq
    rw [request_eq, request_eq, hdatabase, huser, hpassword]

theorem Fits.sent_eq {c : Credentials} (h : c.Fits) : c.sent = c.texts.map Utf8.encode :=
  List.map_congr_left fun s hs => List.take_of_length_le (h s hs)

/-- Strings that fit are told from each other. -/
theorem Fits.inj {c c' : Credentials} (h : c.Fits) (h' : c'.Fits)
    (heq : c.request = c'.request) : c.texts = c'.texts := by
  rw [request_eq_iff, h.sent_eq, h'.sent_eq] at heq
  exact (List.map_injective_iff.mpr fun _ _ => Utf8.encode_inj) heq

/-- Credentials with a name of 33 letters. -/
def longName : Credentials :=
  ⟨"reporting_warehouse_seoul_replica", "dba", "", by decide⟩

/-- Credentials with the first 32 letters of that name. -/
def shortName : Credentials :=
  ⟨"reporting_warehouse_seoul_replic", "dba", "", by decide⟩

/-- The two open the same database, and the field does not hold the longer name. -/
theorem longName_not_sent : longName.request = shortName.request ∧
    longName.database ≠ shortName.database ∧
    (fields longName.request).map fieldText ≠ longName.texts.map Utf8.encode := by
  refine ⟨(request_eq_iff _ _).mpr (by decide), by decide, ?_⟩
  rw [map_fieldText_fields]
  decide

end Credentials

end CubridDriver
