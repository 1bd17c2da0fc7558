import Mathlib.Data.List.Forall2
import TypedRoutes.Text.FormUrl

/-! Encoded values. What is known of a form-URL serializer is how it writes each
byte. That is enough for an encoded value to be read back, to hold no character
that ends or opens a part of a path, and to be made of the encoded parts of the
value, the empty value included. -/
namespace TypedRoutes.EncodedText
open Text.FormUrl

/-- A character that stands for itself: a letter or digit of ASCII, or one of
four marks. -/
def Plain (c : Char) : Prop :=
  c.isAlphanum = true ∨ c ∈ ['*', '-', '.', '_']

instance (c : Char) : Decidable (Plain c) :=
  inferInstanceAs (Decidable (_ ∨ _))

/-- The digits of an escape, with capital letters. -/
def hexDigits : List Char :=
  "0123456789ABCDEF".toList

/-- The written form of a byte: itself when it is plain, a plus for a space, and
else an escape of two digits. -/
inductive Written : UInt8 → List Char → Prop where
  | plain {byte : UInt8} {c : Char} (own : c.toNat = byte.toNat) (plain : Plain c) :
      Written byte [c]
  | space : Written 0x20 ['+']
  | escaped {byte : UInt8} {high low : Char} (foreign : ∀ c, c.toNat = byte.toNat → ¬ Plain c)
      (visible : byte ≠ 0x20) (first : hexDigits[byte.toNat / 16]? = some high)
      (second : hexDigits[byte.toNat % 16]? = some low) : Written byte ['%', high, low]

/-- A serializer that writes the bytes it is given one by one, each in its form.
How it goes about it is left open. -/
def Serializes (serializer : ByteArray → String) : Prop :=
  ∀ bytes, ∃ pieces, List.Forall₂ Written bytes.data.toList pieces ∧
    (serializer bytes).toList = pieces.flatten

/-- What the encoded values by a serializer are like. Values are any texts, of
any characters. -/
structure Faithful (serializer : ByteArray → String) : Prop where
  lossless : ∀ value, decode? (encodeBy serializer value) = some value
  safe : ∀ value, ∀ c ∈ (encodeBy serializer value).toList, Plain c ∨ c = '+' ∨ c = '%'
  escapes : ∀ value before after, (encodeBy serializer value).toList = before ++ '%' :: after →
    ∃ high low rest, after = high :: low :: rest ∧ high ∈ hexDigits ∧ low ∈ hexDigits
  apart : ∀ value, ∀ mark ∈ ['/', '?', '#', '{', '}', '$', '"', '\''],
    mark ∉ (encodeBy serializer value).toList
  empty : ∀ value, encodeBy serializer value = "" ↔ value = ""
  append : ∀ front back, encodeBy serializer (front ++ back) =
    encodeBy serializer front ++ encodeBy serializer back
  /-- The rule for the empty value changes nothing. -/
  unguarded : ∀ value, encodeBy serializer value = serializer value.toUTF8

/-! ## Bytes -/

section Bytes
variable {byte : UInt8} {piece : List Char}

private theorem plain_bytes : ∀ n < 256, (Char.ofNat n).toNat = n ∧
    (Plain (Char.ofNat n) ↔ isPlain (UInt8.ofNat n) = true) := by
  decide +kernel

private theorem plain_iff {c : Char} (own : c.toNat = byte.toNat) :
    Plain c ↔ isPlain byte = true := by
  have same := (plain_bytes byte.toNat byte.toNat_lt).2
  rwa [UInt8.ofNat_toNat, ← own, Char.ofNat_toNat] at same

private theorem hexDigits_get : ∀ n < 16, hexDigits[n]? = some (hexDigit n) := by
  decide

private theorem encodeByte_written (byte : UInt8) : Written byte (encodeByte byte) := by
  have small := byte.toNat_lt
  unfold encodeByte
  split
  · rename_i plain
    have own := (plain_bytes byte.toNat small).1
    exact .plain own ((plain_iff own).mpr plain)
  · rename_i foreign
    split
    · rename_i space
      rw [beq_iff_eq.mp space]
      exact .space
    · rename_i visible
      exact .escaped (fun c own plain => foreign ((plain_iff own).mp plain))
        (fun space => visible (beq_iff_eq.mpr space))
        (hexDigits_get _ (by omega)) (hexDigits_get _ (by omega))

/-- No byte has two written forms. -/
theorem Written.eq (written : Written byte piece) : piece = encodeByte byte := by
  have small := byte.toNat_lt
  cases written with
  | plain own plain =>
    rw [encodeByte, if_pos ((plain_iff own).mp plain), ← own, Char.ofNat_toNat]
  | space => rfl
  | escaped foreign visible first second =>
    have unplain : ¬ isPlain byte = true := fun plain =>
      have own := (plain_bytes byte.toNat small).1
      foreign _ own ((plain_iff own).mpr plain)
    rw [hexDigits_get _ (by omega), Option.some.injEq] at first second
    rw [encodeByte, if_neg unplain, if_neg (by simpa using visible), first, second]

private theorem hexDigits_plain : ∀ c ∈ hexDigits, Plain c := by
  have each : hexDigits.all (Plain ·) = true := by decide
  exact fun c member => of_decide_eq_true (List.all_eq_true.mp each c member)

private theorem Written.safe (written : Written byte piece) :
    ∀ c ∈ piece, Plain c ∨ c = '+' ∨ c = '%' := by
  cases written with
  | plain own plain => simpa using .inl plain
  | space => simp
  | escaped foreign visible first second =>
    have high := hexDigits_plain _ (List.mem_of_getElem? first)
    have low := hexDigits_plain _ (List.mem_of_getElem? second)
    simp [high, low]

end Bytes

/-! ## Texts -/

section Texts
variable {bytes : List UInt8} {pieces : List (List Char)}

private theorem serialize_serializes : Serializes serialize := by
  intro bytes
  refine ⟨bytes.data.toList.map encodeByte, ?_, ?_⟩
  · apply List.forall₂_map_right_iff.mpr
    exact List.forall₂_same.mpr fun byte _ => encodeByte_written byte
  · rw [serialize, String.toList_ofList, List.flatMap_def]

private theorem pieces_eq (written : List.Forall₂ Written bytes pieces) :
    pieces = bytes.map encodeByte := by
  induction written with
  | nil => rfl
  | cons first rest ih => rw [List.map_cons, first.eq, ih]

/-- There is one way to serialize bytes, so what holds of one serializer holds
of all. -/
theorem Serializes.eq {serializer : ByteArray → String} (serializes : Serializes serializer) :
    serializer = serialize := by
  funext bytes
  obtain ⟨pieces, written, text⟩ := serializes bytes
  apply String.toList_inj.mp
  rw [text, pieces_eq written, serialize, String.toList_ofList, List.flatMap_def]

private theorem encode_safe (value : String) :
    ∀ c ∈ (encode value).toList, Plain c ∨ c = '+' ∨ c = '%' := by
  intro c member
  rw [encode_eq_serialize, serialize, String.toList_ofList, List.mem_flatMap] at member
  obtain ⟨byte, -, inside⟩ := member
  exact (encodeByte_written byte).safe c inside

/-- A percent sign only comes from an escape, and as its first character, so two
digits follow every one. -/
theorem pieces_escapes (written : List.Forall₂ Written bytes pieces) (before after : List Char)
    (split : pieces.flatten = before ++ '%' :: after) :
    ∃ high low rest, after = high :: low :: rest ∧ high ∈ hexDigits ∧ low ∈ hexDigits := by
  induction written generalizing before with
  | nil => simp at split
  | cons first rest ih =>
    rw [List.flatten_cons] at split
    cases first with
    | @plain _ c own plain =>
      cases before with
      | nil =>
        have percent : c = '%' := List.head_eq_of_cons_eq split
        subst percent
        exact absurd plain (by decide)
      | cons _ before => exact ih before (List.tail_eq_of_cons_eq split)
    | space =>
      cases before with
      | nil => simp at split
      | cons _ before => exact ih before (List.tail_eq_of_cons_eq split)
    | escaped foreign visible first second =>
      have high := List.mem_of_getElem? first
      have low := List.mem_of_getElem? second
      match before, split with
      | [], split => exact ⟨_, _, _, (List.tail_eq_of_cons_eq split).symm, high, low⟩
      | [_], split =>
        have percent := List.head_eq_of_cons_eq (List.tail_eq_of_cons_eq split)
        rw [percent] at high
        exact absurd high (by decide)
      | [_, _], split =>
        have percent := List.head_eq_of_cons_eq
          (List.tail_eq_of_cons_eq (List.tail_eq_of_cons_eq split))
        rw [percent] at low
        exact absurd low (by decide)
      | _ :: _ :: _ :: before, split =>
        exact ih before (List.tail_eq_of_cons_eq
          (List.tail_eq_of_cons_eq (List.tail_eq_of_cons_eq split)))

/-- Only the empty value is encoded as nothing. -/
theorem encode_empty_iff (value : String) : encode value = "" ↔ value = "" := by
  constructor
  · intro empty
    have read := decode_encode value
    rw [empty] at read
    exact Option.some.inj (read.symm.trans (decode_encode ""))
  · rintro rfl
    rfl

end Texts

/-- By any serializer that writes each byte in its form, a value is encoded
without loss, into characters that are safe in a segment of a path, and part by
part. -/
theorem encoding_faithful {serializer : ByteArray → String} (serializes : Serializes serializer) :
    Faithful serializer := by
  rw [serializes.eq]
  refine ⟨decode_encode, encode_safe, ?_, ?_, encode_empty_iff, encode_append, encode_eq_serialize⟩
  · intro value before after split
    obtain ⟨pieces, written, text⟩ := serialize_serializes value.toUTF8
    rw [← encode_eq_serialize] at text
    exact pieces_escapes written before after (text.symm.trans split)
  · intro value mark listed member
    have foreign : ¬ (Plain mark ∨ mark = '+' ∨ mark = '%') := by
      simp only [List.mem_cons, List.not_mem_nil, or_false] at listed
      rcases listed with rfl | rfl | rfl | rfl | rfl | rfl | rfl | rfl <;> decide
    exact foreign (encode_safe value mark member)

theorem encoding_faithful_serialize : Serializes serialize ∧ Faithful serialize :=
  ⟨serialize_serializes, encoding_faithful serialize_serializes⟩

/-- Text that looks encoded is encoded like any other. -/
example : encode "é +%2F" = "%C3%A9+%2B%252F" := by decide +kernel

end TypedRoutes.EncodedText
