import Pop3.Rust.Str

/-!
# UTF-8

The bytes of a string slice and `String::from_utf8`, on lists of bytes.  The
codec itself is Lean's own; this module adds the facts that a protocol reader
needs: encoding is injective, it distributes over concatenation, and an ASCII
byte in the encoding stands for that ASCII character, so that splitting the
bytes at an ASCII delimiter splits the text.
-/

namespace Rust

/-- The bytes of a string slice. -/
def utf8 (text : Str) : List UInt8 := text.flatMap String.utf8EncodeChar

/-- `String::from_utf8`. -/
def fromUtf8 (bytes : List UInt8) : Option Str :=
  bytes.toByteArray.utf8Decode?.map Array.toList

/-- The bytes are the encoding of some text. -/
def IsUtf8 (bytes : List UInt8) : Prop := (fromUtf8 bytes).isSome

instance (bytes : List UInt8) : Decidable (IsUtf8 bytes) :=
  inferInstanceAs (Decidable ((fromUtf8 bytes).isSome = true))

@[simp] theorem utf8_nil : utf8 [] = [] := rfl

@[simp] theorem utf8_cons (character : Char) (rest : Str) :
    utf8 (character :: rest) =
      String.utf8EncodeChar character ++ utf8 rest := rfl

@[simp] theorem utf8_append (left right : Str) :
    utf8 (left ++ right) = utf8 left ++ utf8 right := by
  simp [utf8]

/-- Decoding undoes encoding. -/
@[simp] theorem fromUtf8_utf8 (text : Str) :
    fromUtf8 (utf8 text) = some text := by
  change text.utf8Encode.utf8Decode?.map Array.toList = some text
  rw [List.utf8Decode?_utf8Encode]
  rfl

/-- Only the encoding of a text decodes to it. -/
theorem utf8_of_fromUtf8_eq_some
    {bytes : List UInt8}
    {text : Str}
    (decoded : fromUtf8 bytes = some text) :
    utf8 text = bytes := by
  obtain ⟨characters, decodes, rfl⟩ := Option.map_eq_some_iff.mp decoded
  have isSome : bytes.toByteArray.utf8Decode?.isSome := by
    rw [decodes]
    rfl
  have encoded := ByteArray.utf8Encode_get_utf8Decode?
    (b := bytes.toByteArray) (h := isSome)
  simp only [decodes, Option.get_some] at encoded
  exact List.toByteArray_inj.mp encoded

theorem utf8_injective : Function.Injective utf8 := by
  intro left right equal
  have decoded := congrArg fromUtf8 equal
  simpa using decoded

@[simp] theorem utf8_eq_nil_iff (text : Str) : utf8 text = [] ↔ text = [] := by
  constructor
  · intro empty
    exact utf8_injective empty
  · rintro rfl
    rfl

theorem isUtf8_iff (bytes : List UInt8) :
    IsUtf8 bytes ↔ ∃ text, utf8 text = bytes := by
  rw [IsUtf8, Option.isSome_iff_exists]
  constructor
  · rintro ⟨text, decoded⟩
    exact ⟨text, utf8_of_fromUtf8_eq_some decoded⟩
  · rintro ⟨text, rfl⟩
    exact ⟨text, fromUtf8_utf8 text⟩

@[simp] theorem isUtf8_utf8 (text : Str) : IsUtf8 (utf8 text) :=
  (isUtf8_iff _).mpr ⟨text, rfl⟩

theorem IsUtf8.append
    {left right : List UInt8}
    (leftValid : IsUtf8 left)
    (rightValid : IsUtf8 right) :
    IsUtf8 (left ++ right) := by
  obtain ⟨leftText, rfl⟩ := (isUtf8_iff left).mp leftValid
  obtain ⟨rightText, rfl⟩ := (isUtf8_iff right).mp rightValid
  exact (isUtf8_iff _).mpr ⟨leftText ++ rightText, utf8_append leftText rightText⟩

/-! ## ASCII delimiters -/

/-- The byte of an ASCII character. -/
def asciiByte (character : Char) : UInt8 := character.val.toUInt8

private theorem le_or_of_le
    {bound mask : UInt8}
    (le : bound ≤ mask)
    (byte : UInt8) :
    bound ≤ byte ||| mask := by
  rw [UInt8.le_iff_toNat_le] at le ⊢
  rw [UInt8.toNat_or]
  exact le.trans Nat.right_le_or

/-- Every byte of a character outside ASCII has its high bit set. -/
theorem le_of_mem_utf8EncodeChar
    {character : Char}
    (multibyte : character.utf8Size ≠ 1)
    {byte : UInt8}
    (member : byte ∈ String.utf8EncodeChar character) :
    0x80 ≤ byte := by
  have tail : (0x80 : UInt8) ≤ 0x80 := by decide
  rcases character.utf8Size_eq with size | size | size | size
  · exact absurd size multibyte
  · rw [String.utf8EncodeChar_eq_cons_cons size] at member
    simp only [List.mem_cons, List.not_mem_nil, or_false] at member
    rcases member with rfl | rfl
    · exact le_or_of_le (by decide) _
    · exact le_or_of_le tail _
  · rw [String.utf8EncodeChar_eq_cons_cons_cons size] at member
    simp only [List.mem_cons, List.not_mem_nil, or_false] at member
    rcases member with rfl | rfl | rfl
    · exact le_or_of_le (by decide) _
    · exact le_or_of_le tail _
    · exact le_or_of_le tail _
  · rw [String.utf8EncodeChar_eq_cons_cons_cons_cons size] at member
    simp only [List.mem_cons, List.not_mem_nil, or_false] at member
    rcases member with rfl | rfl | rfl | rfl
    · exact le_or_of_le (by decide) _
    · exact le_or_of_le tail _
    · exact le_or_of_le tail _
    · exact le_or_of_le tail _

theorem utf8EncodeChar_of_ascii
    {character : Char}
    (ascii : character.val ≤ 127) :
    String.utf8EncodeChar character = [asciiByte character] :=
  String.utf8EncodeChar_eq_singleton (Char.utf8Size_eq_one_iff.mpr ascii)

theorem asciiByte_lt
    {character : Char}
    (ascii : character.val ≤ 127) :
    asciiByte character < 0x80 := by
  rw [UInt32.le_iff_toNat_le] at ascii
  rw [UInt8.lt_iff_toNat_lt, asciiByte, UInt32.toNat_toUInt8]
  simp only [UInt32.toNat_ofNat, UInt8.toNat_ofNat] at ascii ⊢
  omega

theorem asciiByte_injective
    {left right : Char}
    (leftAscii : left.val ≤ 127)
    (rightAscii : right.val ≤ 127)
    (equal : asciiByte left = asciiByte right) :
    left = right := by
  have encodings : utf8 [left] = utf8 [right] := by
    simp [utf8EncodeChar_of_ascii leftAscii, utf8EncodeChar_of_ascii rightAscii,
      equal]
  simpa using utf8_injective encodings

/-- An ASCII byte in the encoding of a character is that character. -/
theorem eq_of_asciiByte_mem
    {delimiter character : Char}
    (ascii : delimiter.val ≤ 127)
    (member : asciiByte delimiter ∈ String.utf8EncodeChar character) :
    character = delimiter := by
  by_cases single : character.utf8Size = 1
  · have characterAscii := Char.utf8Size_eq_one_iff.mp single
    rw [utf8EncodeChar_of_ascii characterAscii, List.mem_singleton] at member
    exact (asciiByte_injective ascii characterAscii member).symm
  · have high := le_of_mem_utf8EncodeChar single member
    have low := asciiByte_lt ascii
    exact absurd low (UInt8.not_lt.mpr high)

/-- An ASCII byte occurs in the encoding exactly when its character occurs in
the text. -/
theorem asciiByte_mem_utf8
    (delimiter : Char)
    (ascii : delimiter.val ≤ 127)
    (text : Str) :
    asciiByte delimiter ∈ utf8 text ↔ delimiter ∈ text := by
  rw [utf8, List.mem_flatMap]
  constructor
  · rintro ⟨character, member, byteMember⟩
    exact eq_of_asciiByte_mem ascii byteMember ▸ member
  · intro member
    exact ⟨delimiter, member, by simp [utf8EncodeChar_of_ascii ascii]⟩

@[simp] theorem feed_mem_utf8 (text : Str) : 10 ∈ utf8 text ↔ '\n' ∈ text :=
  asciiByte_mem_utf8 '\n' (by decide) text

@[simp] theorem return_mem_utf8 (text : Str) : 13 ∈ utf8 text ↔ '\r' ∈ text :=
  asciiByte_mem_utf8 '\r' (by decide) text

/-- Splitting the bytes at an ASCII delimiter splits the text there. -/
theorem exists_split_of_utf8_eq_append
    {delimiter : Char}
    (ascii : delimiter.val ≤ 127)
    {text : Str}
    {left right : List UInt8}
    (equal : utf8 text = left ++ asciiByte delimiter :: right) :
    ∃ before after, text = before ++ delimiter :: after ∧
      utf8 before = left ∧ utf8 after = right := by
  induction text generalizing left with
  | nil => simp at equal
  | cons character text inductionHypothesis =>
      rw [utf8_cons, List.append_eq_append_iff] at equal
      rcases equal with ⟨rest, left_eq, text_eq⟩ | ⟨rest, character_eq, tail_eq⟩
      · obtain ⟨before, after, text_split, before_eq, after_eq⟩ :=
          inductionHypothesis text_eq
        exact ⟨character :: before, after, by rw [text_split]; rfl,
          by rw [utf8_cons, before_eq, left_eq], after_eq⟩
      · cases rest with
        | nil =>
            rw [List.append_nil] at character_eq
            have tail_eq' : utf8 text = [] ++ asciiByte delimiter :: right := tail_eq.symm
            obtain ⟨before, after, text_split, before_eq, after_eq⟩ :=
              inductionHypothesis tail_eq'
            exact ⟨character :: before, after, by rw [text_split]; rfl,
              by rw [utf8_cons, before_eq, List.append_nil, character_eq],
              after_eq⟩
        | cons byte rest =>
            injection tail_eq with byte_eq right_eq
            have member : asciiByte delimiter ∈
                String.utf8EncodeChar character := by
              rw [character_eq, byte_eq]
              simp
            have same := eq_of_asciiByte_mem ascii member
            subst same
            rw [utf8EncodeChar_of_ascii ascii] at character_eq
            have left_nil : left = [] := by
              cases left with
              | nil => rfl
              | cons _ _ => simp at character_eq
            have rest_nil : rest = [] := by
              subst left_nil
              simp at character_eq
              exact character_eq.2
            exact ⟨[], text, rfl, left_nil.symm, by rw [right_eq, rest_nil]; rfl⟩

/-- An ASCII byte in front is the first character. -/
theorem eq_of_utf8_head
    {delimiter head : Char}
    (ascii : delimiter.val ≤ 127)
    {tail : Str}
    {more rest : List UInt8}
    (same : utf8 (head :: tail) ++ more = asciiByte delimiter :: rest) :
    head = delimiter := by
  cases encoded : utf8 (head :: tail) with
  | nil => cases (utf8_eq_nil_iff _).mp encoded
  | cons byte bytes =>
      rw [encoded, List.cons_append] at same
      injection same with first
      have split : utf8 (head :: tail) = [] ++ asciiByte delimiter :: bytes := by
        rw [encoded, first, List.nil_append]
      obtain ⟨before, after, text_eq, before_eq, _⟩ := exists_split_of_utf8_eq_append ascii split
      rw [utf8_eq_nil_iff] at before_eq
      subst before_eq
      injection text_eq

/-- Bytes around an ASCII delimiter are valid exactly when both sides are. -/
theorem isUtf8_append_cons
    {delimiter : Char}
    (ascii : delimiter.val ≤ 127)
    (left right : List UInt8) :
    IsUtf8 (left ++ asciiByte delimiter :: right) ↔
      IsUtf8 left ∧ IsUtf8 right := by
  constructor
  · intro valid
    obtain ⟨text, text_eq⟩ := (isUtf8_iff _).mp valid
    obtain ⟨before, after, _, before_eq, after_eq⟩ :=
      exists_split_of_utf8_eq_append ascii text_eq
    exact ⟨(isUtf8_iff _).mpr ⟨before, before_eq⟩,
      (isUtf8_iff _).mpr ⟨after, after_eq⟩⟩
  · rintro ⟨leftValid, rightValid⟩
    have delimiterValid : IsUtf8 [asciiByte delimiter] :=
      (isUtf8_iff _).mpr ⟨[delimiter], by simp [utf8EncodeChar_of_ascii ascii]⟩
    exact leftValid.append (delimiterValid.append rightValid)

/-! ## Byte offsets -/

/-- `str::len`, the number of bytes. -/
def byteLength (text : Str) : Nat := (utf8 text).length

@[simp] theorem byteLength_nil : byteLength [] = 0 := rfl

@[simp] theorem byteLength_cons (character : Char) (rest : Str) :
    byteLength (character :: rest) = character.utf8Size + byteLength rest := by
  simp [byteLength]

@[simp] theorem byteLength_append (left right : Str) :
    byteLength (left ++ right) = byteLength left + byteLength right := by
  simp [byteLength]

/-- `str::is_char_boundary`: the offset splits the slice between characters. -/
def IsCharBoundary (text : Str) (offset : Nat) : Prop :=
  ∃ before after, text = before ++ after ∧ byteLength before = offset

/-- Split a slice after a number of bytes. -/
def splitAtByte : Nat → Str → Str × Str
  | 0, text => ([], text)
  | _ + 1, [] => ([], [])
  | offset + 1, character :: rest =>
      let split := splitAtByte (offset + 1 - character.utf8Size) rest
      (character :: split.1, split.2)

/-- `&text[..offset]`; an offset off a boundary panics, so it takes the proof. -/
def sliceTo (text : Str) (offset : Nat) (_boundary : IsCharBoundary text offset) : Str :=
  (splitAtByte offset text).1

/-- `&text[offset..]`; an offset off a boundary panics, so it takes the proof. -/
def sliceFrom (text : Str) (offset : Nat) (_boundary : IsCharBoundary text offset) : Str :=
  (splitAtByte offset text).2

theorem splitAtByte_append (before after : Str) :
    splitAtByte (byteLength before) (before ++ after) = (before, after) := by
  induction before with
  | nil => rw [byteLength_nil, List.nil_append, splitAtByte]
  | cons character before inductionHypothesis =>
      have positive := character.utf8Size_pos
      obtain ⟨size, size_eq⟩ := Nat.exists_eq_succ_of_ne_zero
        (show character.utf8Size + byteLength before ≠ 0 by omega)
      rw [byteLength_cons, size_eq, List.cons_append, splitAtByte, ← Nat.succ_eq_add_one,
        ← size_eq, Nat.add_sub_cancel_left, inductionHypothesis]

theorem sliceTo_append
    (before after : Str)
    (boundary : IsCharBoundary (before ++ after) (byteLength before)) :
    sliceTo (before ++ after) (byteLength before) boundary = before := by
  rw [sliceTo, splitAtByte_append]

theorem sliceFrom_append
    (before after : Str)
    (boundary : IsCharBoundary (before ++ after) (byteLength before)) :
    sliceFrom (before ++ after) (byteLength before) boundary = after := by
  rw [sliceFrom, splitAtByte_append]

theorem isCharBoundary_after
    {before text : Str}
    (isPrefix : before <+: text) :
    IsCharBoundary text (byteLength before) := by
  obtain ⟨after, rfl⟩ := isPrefix
  exact ⟨before, after, rfl, rfl⟩

/-- `str::find` for a character: the byte offset of its first occurrence. -/
def find (pattern : Char) : Str → Option Nat
  | [] => none
  | character :: rest =>
      if character = pattern then some 0
      else (find pattern rest).map (character.utf8Size + ·)

/-- `find` returns the offset after the text before the first occurrence. -/
theorem find_eq_some
    {pattern : Char}
    {text : Str}
    {offset : Nat}
    (found : find pattern text = some offset) :
    ∃ before after, text = before ++ pattern :: after ∧ pattern ∉ before ∧
      byteLength before = offset := by
  induction text generalizing offset with
  | nil => simp [find] at found
  | cons character text inductionHypothesis =>
      rw [find] at found
      split at found
      · rename_i equal
        simp only [Option.some.injEq] at found
        exact ⟨[], text, by rw [equal]; rfl, by simp, found⟩
      · rename_i different
        obtain ⟨inner, inner_found, offset_eq⟩ := Option.map_eq_some_iff.mp found
        obtain ⟨before, after, text_eq, absent, length_eq⟩ :=
          inductionHypothesis inner_found
        refine ⟨character :: before, after, by rw [text_eq]; rfl, ?_, ?_⟩
        · simp only [List.mem_cons, not_or]
          exact ⟨fun equal => different equal.symm, absent⟩
        · rw [byteLength_cons, length_eq, offset_eq]

/-- Both ends of a one-byte match are character boundaries. -/
theorem isCharBoundary_of_find
    {pattern : Char}
    {text : Str}
    {offset : Nat}
    (found : find pattern text = some offset) :
    IsCharBoundary text offset := by
  obtain ⟨before, after, rfl, _, length_eq⟩ := find_eq_some found
  exact ⟨before, pattern :: after, rfl, length_eq⟩

theorem isCharBoundary_succ_of_find
    {pattern : Char}
    (ascii : pattern.utf8Size = 1)
    {text : Str}
    {offset : Nat}
    (found : find pattern text = some offset) :
    IsCharBoundary text (offset + 1) := by
  obtain ⟨before, after, rfl, _, length_eq⟩ := find_eq_some found
  exact ⟨before ++ [pattern], after, by simp, by simp [ascii, length_eq]⟩

example : utf8 "+OK é".toList = [43, 79, 75, 32, 0xC3, 0xA9] := by decide

end Rust
