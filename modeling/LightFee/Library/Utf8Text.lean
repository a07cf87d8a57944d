import Mathlib.Data.List.Basic

/-!
# Texts as bytes

A byte sequence is a text when it is the UTF-8 encoding of its characters. Every
character starts with a byte that no character continues with, so cutting a
text in front of an encoded text leaves a text: an incomplete character stays
incomplete whatever is appended to it.
-/

namespace Utf8Text

def encode (text : List Char) : List UInt8 := text.flatMap String.utf8EncodeChar

def decode (bytes : List UInt8) : Option (List Char) :=
  bytes.toByteArray.utf8Decode?.map Array.toList

@[simp] theorem encode_nil : encode [] = [] := rfl

@[simp] theorem encode_append (first second : List Char) :
    encode (first ++ second) = encode first ++ encode second := List.flatMap_append

theorem toByteArray_encode (text : List Char) : (encode text).toByteArray = text.utf8Encode := rfl

/-- Bytes read as a text exactly when they are its encoding. -/
theorem decode_eq_some_iff (bytes : List UInt8) (text : List Char) :
    decode bytes = some text ↔ bytes = encode text := by
  constructor
  · intro decoded
    obtain ⟨characters, found, rfl⟩ := Option.map_eq_some_iff.mp decoded
    have valid : bytes.toByteArray.utf8Decode?.isSome = true := by rw [found]; rfl
    have same : (bytes.toByteArray.utf8Decode?.get valid).toList.utf8Encode = bytes.toByteArray :=
      ByteArray.utf8Encode_get_utf8Decode?
    simp only [found, Option.get_some, ← toByteArray_encode] at same
    have lists := congrArg (fun array : ByteArray => array.data.toList) same
    simpa using lists.symm
  · rintro rfl
    rw [decode, toByteArray_encode, List.utf8Decode?_utf8Encode]
    rfl

@[simp] theorem decode_encode (text : List Char) : decode (encode text) = some text :=
  (decode_eq_some_iff _ _).mpr rfl

theorem encode_cons (c : Char) (text : List Char) :
    encode (c :: text) = String.utf8EncodeChar c ++ encode text := List.flatMap_cons

/-- A byte that starts a character is found at the start of one. -/
theorem starts_character {c : Char} {before after : List UInt8} {first : UInt8}
    (starts : first.IsUTF8FirstByte) (split : String.utf8EncodeChar c = before ++ first :: after) :
    before = [] := by
  have bound : before.length < (String.utf8EncodeChar c).length := by
    rw [split, List.length_append, List.length_cons]
    omega
  have found : (String.utf8EncodeChar c)[before.length] = first := by
    simp [split]
  have atStart : before.length = 0 := by
    rw [← found] at starts
    exact UInt8.isUTF8FirstByte_getElem_utf8EncodeChar.mp starts
  exact List.eq_nil_of_length_eq_zero atStart

/-- What stands before the start of a character in a text is a text. -/
theorem text_before_start {first : UInt8} (starts : first.IsUTF8FirstByte) (text : List Char)
    {before after : List UInt8} (whole : before ++ first :: after = encode text) :
    ∃ front, before = encode front := by
  induction text generalizing before with
  | nil =>
    have nonempty : before ++ first :: after ≠ [] := by simp
    exact absurd whole nonempty
  | cons c rest ih =>
    rw [encode_cons, List.append_eq_append_iff] at whole
    obtain ⟨left, split, tail⟩ | ⟨left, split, tail⟩ := whole
    · cases left with
      | nil =>
        rw [List.append_nil] at split
        exact ⟨[c], by rw [encode_cons, encode_nil, List.append_nil, split]⟩
      | cons byte left =>
        rw [List.cons_append, List.cons.injEq] at tail
        rw [← tail.1] at split
        exact ⟨[], starts_character starts split⟩
    · obtain ⟨front, known⟩ := ih tail.symm
      exact ⟨c :: front, by rw [split, known, encode_cons]⟩

/-- A text stays a text, and no other bytes become one, when a text is appended. -/
theorem decode_append (bytes : List UInt8) (text : List Char) :
    decode (bytes ++ encode text) = (decode bytes).map (· ++ text) := by
  cases decoded : decode bytes with
  | some front =>
    rw [(decode_eq_some_iff bytes front).mp decoded, ← encode_append, decode_encode]
    rfl
  | none =>
    rw [Option.map_none, Option.eq_none_iff_forall_ne_some]
    intro whole found
    have same := (decode_eq_some_iff _ _).mp found
    cases text with
    | nil =>
      rw [encode_nil, List.append_nil] at same
      rw [(decode_eq_some_iff bytes whole).mpr same] at decoded
      cases decoded
    | cons c rest =>
      obtain ⟨first, others, bytesOfC⟩ :=
        List.exists_cons_of_ne_nil (String.utf8EncodeChar_ne_nil : String.utf8EncodeChar c ≠ [])
      have starts : first.IsUTF8FirstByte := by
        have nonempty : 0 < (String.utf8EncodeChar c).length := by simp [bytesOfC]
        have atZero : (String.utf8EncodeChar c)[0] = first := by
          simp [bytesOfC]
        rw [← atZero]
        exact UInt8.isUTF8FirstByte_getElem_zero_utf8EncodeChar
      rw [encode_cons, bytesOfC, List.cons_append] at same
      obtain ⟨front, known⟩ := text_before_start starts whole same
      rw [known, decode_encode] at decoded
      cases decoded

end Utf8Text
