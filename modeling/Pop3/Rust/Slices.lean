import Pop3.Rust.Utf8

/-!
# Slicing at byte offsets

Slicing that may panic, with the offsets at which it does not.
-/

namespace Rust

/-- Split a slice after a number of bytes; none where slicing panics. -/
def splitAtByte? : Nat → Str → Option (Str × Str)
  | 0, text => some ([], text)
  | _ + 1, [] => none
  | offset + 1, character :: rest =>
      if character.utf8Size ≤ offset + 1 then
        (splitAtByte? (offset + 1 - character.utf8Size) rest).map fun split =>
          (character :: split.1, split.2)
      else none

/-- The characters that `is_ascii_whitespace` accepts. -/
def asciiSpaces : List Char := [' ', '\t', '\n', '\x0c', '\r']

theorem splitAtByte?_append (before after : Str) :
    splitAtByte? (byteLength before) (before ++ after) = some (before, after) := by
  induction before with
  | nil => rw [byteLength_nil, List.nil_append, splitAtByte?]
  | cons character before inductionHypothesis =>
      have positive := character.utf8Size_pos
      obtain ⟨size, size_eq⟩ := Nat.exists_eq_succ_of_ne_zero
        (show character.utf8Size + byteLength before ≠ 0 by omega)
      have fits : character.utf8Size ≤ size + 1 := by omega
      rw [byteLength_cons, size_eq, List.cons_append, splitAtByte?, if_pos fits,
        ← Nat.succ_eq_add_one, ← size_eq, Nat.add_sub_cancel_left, inductionHypothesis]
      rfl

/-- Slicing at a boundary does not panic. -/
theorem splitAtByte?_of_isCharBoundary
    {text : Str}
    {offset : Nat}
    (boundary : IsCharBoundary text offset) :
    splitAtByte? offset text = some (splitAtByte offset text) := by
  obtain ⟨before, after, rfl, rfl⟩ := boundary
  rw [splitAtByte?_append, splitAtByte_append]

/-- Slicing off the boundaries panics. -/
theorem isCharBoundary_of_splitAtByte?
    {text before after : Str}
    {offset : Nat}
    (split : splitAtByte? offset text = some (before, after)) :
    text = before ++ after ∧ byteLength before = offset := by
  induction offset, text using splitAtByte?.induct generalizing before with
  | case1 text =>
      rw [splitAtByte?] at split
      cases split
      exact ⟨rfl, rfl⟩
  | case2 offset =>
      rw [splitAtByte?] at split
      cases split
  | case3 offset character rest fits inductionHypothesis =>
      rw [splitAtByte?, if_pos fits] at split
      obtain ⟨⟨front, back⟩, inner, same⟩ := Option.map_eq_some_iff.mp split
      cases same
      obtain ⟨rest_eq, length_eq⟩ := inductionHypothesis inner
      refine ⟨by rw [rest_eq]; rfl, ?_⟩
      rw [byteLength_cons, length_eq]
      omega
  | case4 offset character rest fits =>
      rw [splitAtByte?, if_neg fits] at split
      cases split

/-- Slicing panics exactly off the character boundaries. -/
theorem isSome_splitAtByte?_iff {text : Str} {offset : Nat} :
    (splitAtByte? offset text).isSome ↔ IsCharBoundary text offset := by
  rw [Option.isSome_iff_exists]
  constructor
  · rintro ⟨⟨before, after⟩, split⟩
    exact ⟨before, after, isCharBoundary_of_splitAtByte? split⟩
  · intro boundary
    exact ⟨_, splitAtByte?_of_isCharBoundary boundary⟩

/-! ## ASCII whitespace -/

theorem isAsciiWhitespace_asciiByte {character : Char} (member : character ∈ asciiSpaces) :
    String.utf8EncodeChar character = [asciiByte character] ∧
      isAsciiWhitespace (asciiByte character) = true := by
  simp only [asciiSpaces, List.mem_cons, List.not_mem_nil, or_false] at member
  rcases member with rfl | rfl | rfl | rfl | rfl <;> decide

/-- A whitespace byte in the encoding of a character is that character. -/
theorem mem_asciiSpaces_of_byte
    {character : Char}
    {byte : UInt8}
    (member : byte ∈ String.utf8EncodeChar character)
    (space : isAsciiWhitespace byte = true) :
    character ∈ asciiSpaces := by
  simp only [isAsciiWhitespace, Bool.or_eq_true, beq_iff_eq] at space
  have named : ∃ delimiter ∈ asciiSpaces, delimiter.val ≤ 127 ∧ byte = asciiByte delimiter := by
    rcases space with (((rfl | rfl) | rfl) | rfl) | rfl
    · exact ⟨' ', by decide⟩
    · exact ⟨'\t', by decide⟩
    · exact ⟨'\n', by decide⟩
    · exact ⟨'\x0c', by decide⟩
    · exact ⟨'\r', by decide⟩
  obtain ⟨delimiter, isSpace, ascii, rfl⟩ := named
  rwa [eq_of_asciiByte_mem ascii member]

end Rust
