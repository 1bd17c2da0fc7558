import TypedRoutes.Text.Utf8

/-!
Form-URL text, the encoding of marked fields inside a concrete path. Each byte of a text is encoded
on its own, so the encoding of a text is that of its parts in order, and no encoded text holds a
path separator.
-/
namespace TypedRoutes.Text.FormUrl

/-- The bytes that stand for themselves: ASCII letters and digits and `*`, `-`, `.`, `_`. -/
def isPlain (b : UInt8) : Bool :=
  let n := b.toNat
  (0x30 ≤ n && n ≤ 0x39) || (0x41 ≤ n && n ≤ 0x5A) || (0x61 ≤ n && n ≤ 0x7A) ||
    n == 0x2A || n == 0x2D || n == 0x2E || n == 0x5F

/-- The uppercase hexadecimal digit of a number below sixteen. -/
def hexDigit (n : Nat) : Char :=
  Char.ofNat (if n < 10 then 0x30 + n else 0x37 + n)

/-- The written form of one byte: itself, `+` for a space, otherwise a percent escape. -/
def encodeByte (b : UInt8) : List Char :=
  if isPlain b then [Char.ofNat b.toNat]
  else if b == 0x20 then ['+']
  else ['%', hexDigit (b.toNat / 16), hexDigit (b.toNat % 16)]

/-- The form-URL text of bytes, byte by byte and without regard to the characters that they belong
to. -/
def serialize (bytes : ByteArray) : String :=
  String.ofList (bytes.data.toList.flatMap encodeByte)

/-- The text of a value by a serializer of bytes. The empty value has the empty text. -/
def encodeBy (serializer : ByteArray → String) (value : String) : String :=
  if value = "" then "" else serializer value.toUTF8

/-- The form-URL text of a value, by its bytes in UTF-8. -/
def encode (value : String) : String :=
  encodeBy serialize value

/-- The number a hexadecimal digit of either case stands for. -/
def hexValue? (c : Char) : Option Nat :=
  if '0' ≤ c ∧ c ≤ '9' then some (c.toNat - 0x30)
  else if 'A' ≤ c ∧ c ≤ 'F' then some (c.toNat - 0x37)
  else if 'a' ≤ c ∧ c ≤ 'f' then some (c.toNat - 0x57)
  else none

/-- The bytes that form-URL text stands for. A percent sign without two hexadecimal digits stands
for itself, as the format's readers have it. -/
def decodeBytes : List Char → List UInt8
  | [] => []
  | '+' :: rest => 0x20 :: decodeBytes rest
  | '%' :: high :: low :: rest =>
    match hexValue? high, hexValue? low with
    | some h, some l => UInt8.ofNat (h * 16 + l) :: decodeBytes rest
    | _, _ => String.utf8EncodeChar '%' ++ decodeBytes (high :: low :: rest)
  | c :: rest => String.utf8EncodeChar c ++ decodeBytes rest

/-- The value of form-URL text, when its bytes are UTF-8. -/
def decode? (text : String) : Option String :=
  String.fromUTF8? ⟨(decodeBytes text.toList).toArray⟩

private theorem serialize_append (first second : ByteArray) :
    serialize (first ++ second) = serialize first ++ serialize second := by
  simp [serialize]

/-- The empty value needs no rule of its own. -/
theorem encode_eq_serialize (value : String) : encode value = serialize value.toUTF8 := by
  unfold encode encodeBy
  split
  · rename_i empty
    subst empty
    rfl
  · rfl

theorem encode_append (s t : String) : encode (s ++ t) = encode s ++ encode t := by
  simp only [encode_eq_serialize, String.toUTF8_eq_toByteArray, String.toByteArray_append,
    serialize_append]

/-! ## Encoded text is undivided -/

private theorem encodeByte_undivided : ∀ n < 256, '/' ∉ encodeByte (UInt8.ofNat n) := by
  decide +kernel

/-- No encoded value holds a path separator, so a value stays within one segment of a path. -/
theorem encode_undivided (value : String) : '/' ∉ (encode value).toList := by
  intro separator
  rw [encode_eq_serialize, serialize, String.toList_ofList, List.mem_flatMap] at separator
  obtain ⟨b, -, inside⟩ := separator
  have apart := encodeByte_undivided b.toNat b.toNat_lt
  rw [UInt8.ofNat_toNat] at apart
  exact apart inside

/-! ## Encoded text reads back -/

private theorem hexValue_hexDigit : ∀ n < 16, hexValue? (hexDigit n) = some n := by
  decide

private theorem plain_character : ∀ n < 256, isPlain (UInt8.ofNat n) = true →
    String.utf8EncodeChar (Char.ofNat n) = [UInt8.ofNat n] ∧
      Char.ofNat n ≠ '+' ∧ Char.ofNat n ≠ '%' := by
  decide +kernel

private theorem decodeBytes_character {c : Char} (plus : c ≠ '+') (percent : c ≠ '%')
    (rest : List Char) :
    decodeBytes (c :: rest) = String.utf8EncodeChar c ++ decodeBytes rest := by
  rw [decodeBytes]
  · exact plus
  · rintro high low others rfl
    exact absurd rfl percent

private theorem decodeBytes_encodeByte (b : UInt8) (rest : List Char) :
    decodeBytes (encodeByte b ++ rest) = b :: decodeBytes rest := by
  have small := b.toNat_lt
  unfold encodeByte
  split
  · rename_i plain
    have character := plain_character b.toNat small
    rw [UInt8.ofNat_toNat] at character
    obtain ⟨single, plus, percent⟩ := character plain
    rw [List.singleton_append, decodeBytes_character plus percent, single, List.singleton_append]
  · split
    · rename_i space
      rw [beq_iff_eq.mp space]
      rfl
    · have high := hexValue_hexDigit (b.toNat / 16) (by omega)
      have low := hexValue_hexDigit (b.toNat % 16) (by omega)
      have whole : b.toNat / 16 * 16 + b.toNat % 16 = b.toNat := by omega
      simp only [List.cons_append, List.nil_append, decodeBytes, high, low, whole,
        UInt8.ofNat_toNat]

private theorem decodeBytes_encodeBytes (bytes : List UInt8) :
    decodeBytes (bytes.flatMap encodeByte) = bytes := by
  induction bytes with
  | nil => rfl
  | cons b rest ih => rw [List.flatMap_cons, decodeBytes_encodeByte, ih]

/-- Every value can be read back from its form-URL text. So no two values are written alike. -/
theorem decode_encode (value : String) : decode? (encode value) = some value := by
  rw [decode?, encode_eq_serialize, serialize, String.toList_ofList, decodeBytes_encodeBytes,
    Array.toArray_toList]
  exact fromUTF8?_toUTF8 value

end TypedRoutes.Text.FormUrl
