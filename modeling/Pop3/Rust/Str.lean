import Mathlib.Data.List.DropRight
import Mathlib.Data.List.Basic

/-!
# Rust string slices

The operations of `str` that byte-oriented protocol code relies on, on the
sequence of characters of the slice.  Each definition follows the documented
behavior of the standard library: whitespace is the Unicode property
`White_Space`, `lines` splits at LF and drops one trailing CR, and integers
parse as ASCII digits with an optional leading plus sign.
-/

namespace Rust

/-- A string slice, as the sequence of its characters. -/
abbrev Str := List Char

instance : LawfulBEq Str := inferInstance

/-! ## Whitespace -/

/-- `char::is_whitespace`, the Unicode property `White_Space`. -/
def isWhitespace (character : Char) : Bool :=
  let code := character.toNat
  (9 ≤ code && code ≤ 13) || code == 0x20 || code == 0x85 || code == 0xA0 ||
    code == 0x1680 || (0x2000 ≤ code && code ≤ 0x200A) || code == 0x2028 ||
    code == 0x2029 || code == 0x202F || code == 0x205F || code == 0x3000

/-- `u8::is_ascii_whitespace`: space, HT, LF, FF and CR. -/
def isAsciiWhitespace (byte : UInt8) : Bool :=
  byte == 0x20 || byte == 0x09 || byte == 0x0A || byte == 0x0C || byte == 0x0D

/-- `str::trim_start`. -/
def trimStart (text : Str) : Str := text.dropWhile isWhitespace

/-- `str::trim_end`. -/
def trimEnd (text : Str) : Str := text.rdropWhile isWhitespace

/-- `str::trim`. -/
def trim (text : Str) : Str := trimEnd (trimStart text)

/-- `str::split_whitespace`: the non-empty pieces between whitespace. -/
def splitWhitespace (text : Str) : List Str :=
  (text.splitOnP isWhitespace).filter (!·.isEmpty)

/-- A token has at least one character and no whitespace. -/
structure IsToken (text : Str) : Prop where
  nonempty : text ≠ []
  solid : ∀ character ∈ text, isWhitespace character = false

@[simp] theorem trimStart_nil : trimStart [] = [] := rfl

theorem trimStart_cons_of_solid
    {character : Char}
    (solid : isWhitespace character = false)
    (rest : Str) :
    trimStart (character :: rest) = character :: rest := by
  simp [trimStart, solid]

theorem trimStart_space (rest : Str) :
    trimStart (' ' :: rest) = trimStart rest := by
  have space : isWhitespace ' ' = true := by decide
  simp [trimStart, space]

theorem trimEnd_append_of_solid
    {character : Char}
    (solid : isWhitespace character = false)
    (front : Str) :
    trimEnd (front ++ [character]) = front ++ [character] := by
  unfold trimEnd
  exact List.rdropWhile_concat_neg isWhitespace front character (by simp [solid])

/-- A slice that starts and ends with a token is its own trimming. -/
theorem trim_tokens
    {first last : Str}
    (firstToken : IsToken first)
    (lastToken : IsToken last)
    (middle : Str) :
    trim (first ++ middle ++ last) = first ++ middle ++ last := by
  obtain ⟨head, tail, rfl⟩ := List.exists_cons_of_ne_nil firstToken.nonempty
  obtain ⟨front, final, rfl⟩ :=
    List.eq_nil_or_concat' last |>.resolve_left lastToken.nonempty
  have headSolid := firstToken.solid head (by simp)
  have finalSolid := lastToken.solid final (by simp)
  rw [trim]
  simp only [List.cons_append, trimStart_cons_of_solid headSolid]
  have regroup : head :: (tail ++ middle ++ (front ++ [final])) =
      (head :: (tail ++ middle ++ front)) ++ [final] := by simp
  rw [regroup, trimEnd_append_of_solid finalSolid]

@[simp] theorem splitWhitespace_nil : splitWhitespace [] = [] := rfl

private theorem splitOnPPrepend_token
    {token : Str}
    (solid : ∀ character ∈ token, isWhitespace character = false)
    (pending rest : Str) :
    List.splitOnPPrepend isWhitespace (token ++ rest) pending =
      List.splitOnPPrepend isWhitespace rest (token.reverse ++ pending) := by
  induction token generalizing pending with
  | nil => rfl
  | cons character token inductionHypothesis =>
      rw [List.cons_append,
        List.splitOnPPrepend_cons_neg (solid character (by simp)),
        inductionHypothesis (fun other member => solid other (by simp [member]))]
      simp

/-- A whole slice without whitespace is one piece. -/
theorem splitWhitespace_token
    {token : Str}
    (isToken : IsToken token) :
    splitWhitespace token = [token] := by
  have pieces := splitOnPPrepend_token isToken.solid [] []
  simp only [List.append_nil, List.splitOnPPrepend_nil_right,
    List.splitOnPPrepend_nil, List.reverse_reverse] at pieces
  rw [splitWhitespace, pieces]
  simp [isToken.nonempty]

/-- The piece before the first whitespace comes first. -/
theorem splitWhitespace_token_append
    {token : Str}
    (isToken : IsToken token)
    {separator : Char}
    (space : isWhitespace separator = true)
    (rest : Str) :
    splitWhitespace (token ++ separator :: rest) =
      token :: splitWhitespace rest := by
  have pieces := splitOnPPrepend_token isToken.solid [] (separator :: rest)
  rw [List.append_nil, List.splitOnPPrepend_cons_pos space,
    List.splitOnPPrepend_nil_right, List.reverse_reverse] at pieces
  rw [splitWhitespace, pieces, List.filter_cons, splitWhitespace]
  simp [isToken.nonempty]

/-- Leading whitespace does not start a piece. -/
theorem splitWhitespace_space
    {separator : Char}
    (space : isWhitespace separator = true)
    (rest : Str) :
    splitWhitespace (separator :: rest) = splitWhitespace rest := by
  rw [splitWhitespace, List.splitOnP_cons_eq_if_splitOnPPrepend, if_pos space,
    splitWhitespace]
  simp

/-! ## Prefixes and suffixes -/

/-- `str::strip_prefix`. -/
def stripPrefix (pattern text : Str) : Option Str :=
  if pattern.isPrefixOf text then some (text.drop pattern.length) else none

/-- `str::strip_suffix`. -/
def stripSuffix (pattern text : Str) : Option Str :=
  if pattern.isSuffixOf text then
    some (text.take (text.length - pattern.length))
  else none

/-- Remove a suffix up to `rounds` times. -/
def trimEndMatchesUpTo (pattern : Str) : Nat → Str → Str
  | 0, text => text
  | rounds + 1, text =>
      match stripSuffix pattern text with
      | some shorter => trimEndMatchesUpTo pattern rounds shorter
      | none => text

/-- `str::trim_end_matches`: remove a suffix as often as it occurs.  Every
removal of a non-empty pattern shortens the slice, so its length bounds the
number of removals. -/
def trimEndMatches (pattern text : Str) : Str :=
  trimEndMatchesUpTo pattern text.length text

@[simp] theorem stripPrefix_append (pattern rest : Str) :
    stripPrefix pattern (pattern ++ rest) = some rest := by
  simp [stripPrefix]

theorem stripPrefix_eq_none
    {pattern text : Str}
    (absent : ¬pattern <+: text) :
    stripPrefix pattern text = none := by
  simp [stripPrefix, absent]

theorem eq_of_stripPrefix
    {pattern text rest : Str}
    (stripped : stripPrefix pattern text = some rest) :
    text = pattern ++ rest := by
  unfold stripPrefix at stripped
  split at stripped
  · rename_i isPrefix
    obtain ⟨rest', rfl⟩ := List.isPrefixOf_iff_prefix.mp isPrefix
    simpa using stripped
  · contradiction

theorem stripSuffix_append (front pattern : Str) :
    stripSuffix pattern (front ++ pattern) = some front := by
  simp [stripSuffix]

theorem stripSuffix_eq_none
    {pattern text : Str}
    (absent : ¬pattern <:+ text) :
    stripSuffix pattern text = none := by
  simp [stripSuffix, absent]

theorem trimEndMatchesUpTo_eq_self
    {pattern text : Str}
    (absent : ¬pattern <:+ text)
    (rounds : Nat) :
    trimEndMatchesUpTo pattern rounds text = text := by
  cases rounds with
  | zero => rfl
  | succ rounds => rw [trimEndMatchesUpTo, stripSuffix_eq_none absent]

/-- Without the suffix there is nothing to trim. -/
theorem trimEndMatches_eq_self
    {pattern text : Str}
    (absent : ¬pattern <:+ text) :
    trimEndMatches pattern text = text :=
  trimEndMatchesUpTo_eq_self absent _

/-- A suffix that occurs exactly once is removed exactly once. -/
theorem trimEndMatches_append
    {pattern front : Str}
    (nonempty : pattern ≠ [])
    (absent : ¬pattern <:+ front) :
    trimEndMatches pattern (front ++ pattern) = front := by
  have positive : 0 < (front ++ pattern).length := by
    have := List.length_pos_iff.mpr nonempty
    simp only [List.length_append]
    omega
  obtain ⟨rounds, length_eq⟩ := Nat.exists_eq_succ_of_ne_zero positive.ne'
  rw [trimEndMatches, length_eq, trimEndMatchesUpTo, stripSuffix_append]
  exact trimEndMatchesUpTo_eq_self absent rounds

theorem stripSuffix_begins
    {pattern text shorter : Str}
    (stripped : stripSuffix pattern text = some shorter) :
    shorter <+: text := by
  unfold stripSuffix at stripped
  split at stripped
  · injection stripped with stripped
    rw [← stripped]
    exact List.take_prefix _ _
  · cases stripped

/-- Trimming at the end leaves a beginning. -/
theorem trimEndMatches_begins (pattern text : Str) :
    trimEndMatches pattern text <+: text := by
  have rounds : ∀ rounds text, trimEndMatchesUpTo pattern rounds text <+: text := by
    intro rounds
    induction rounds with
    | zero => exact fun text => List.prefix_rfl
    | succ rounds inductionHypothesis =>
        intro text
        rw [trimEndMatchesUpTo]
        split
        · rename_i stripped
          exact (inductionHypothesis _).trans (stripSuffix_begins stripped)
        · exact List.prefix_rfl
  exact rounds _ _

theorem not_suffix_of_not_mem
    {pattern text : Str}
    {character : Char}
    (member : character ∈ pattern)
    (absent : character ∉ text) :
    ¬pattern <:+ text :=
  fun suffix => absent (suffix.subset member)

/-! ## Lines -/

/-- `str::split_inclusive('\n')`: the pieces keep their LF. -/
def splitInclusive : Str → List Str
  | [] => []
  | character :: rest =>
      if character = '\n' then [character] :: splitInclusive rest
      else
        match splitInclusive rest with
        | [] => [[character]]
        | piece :: pieces => (character :: piece) :: pieces

/-- Drop one LF and then one CR from the end, as `str::lines` does. -/
def stripLineEnding (line : Str) : Str :=
  match stripSuffix ['\n'] line with
  | none => line
  | some line =>
      match stripSuffix ['\r'] line with
      | none => line
      | some line => line

/-- `str::lines`. -/
def lines (text : Str) : List Str := (splitInclusive text).map stripLineEnding

theorem splitInclusive_line
    {line : Str}
    (noFeed : '\n' ∉ line)
    (rest : Str) :
    splitInclusive (line ++ '\n' :: rest) =
      (line ++ ['\n']) :: splitInclusive rest := by
  induction line with
  | nil => simp [splitInclusive]
  | cons character line inductionHypothesis =>
      simp only [List.mem_cons, not_or] at noFeed
      have different : character ≠ '\n' := fun equal => noFeed.1 equal.symm
      simp [splitInclusive, different, inductionHypothesis noFeed.2]

theorem stripLineEnding_feed
    {line : Str}
    (noReturn : '\r' ∉ line) :
    stripLineEnding (line ++ ['\n']) = line := by
  have absent : ¬['\r'] <:+ line :=
    not_suffix_of_not_mem (by simp) noReturn
  simp [stripLineEnding, stripSuffix_append, stripSuffix_eq_none absent]

@[simp] theorem lines_nil : lines [] = [] := rfl

/-- A terminated line without CR or LF is read back as it is. -/
theorem lines_cons
    {line : Str}
    (noFeed : '\n' ∉ line)
    (noReturn : '\r' ∉ line)
    (rest : Str) :
    lines (line ++ '\n' :: rest) = line :: lines rest := by
  rw [lines, splitInclusive_line noFeed, List.map_cons,
    stripLineEnding_feed noReturn, lines]

/-- Lines joined with LF are read back as they are. -/
theorem lines_flatMap
    (pieces : List Str)
    (noFeed : ∀ piece ∈ pieces, '\n' ∉ piece)
    (noReturn : ∀ piece ∈ pieces, '\r' ∉ piece) :
    lines (pieces.flatMap (· ++ ['\n'])) = pieces := by
  induction pieces with
  | nil => rfl
  | cons piece pieces inductionHypothesis =>
      simp only [List.flatMap_cons, List.append_assoc, List.singleton_append]
      rw [lines_cons (noFeed piece (by simp)) (noReturn piece (by simp)),
        inductionHypothesis
          (fun other member => noFeed other (by simp [member]))
          (fun other member => noReturn other (by simp [member]))]

/-! ## Unsigned integers -/

/-- The digits that `from_str_radix` parses: an optional plus sign is skipped
when something follows it. -/
def unsignedDigits : Str → Str
  | '+' :: digit :: rest => digit :: rest
  | text => text

/-- `str::parse` for an unsigned integer type with `limit` values. -/
def parseUnsigned (limit : Nat) (text : Str) : Option Nat :=
  let digits := unsignedDigits text
  if digits ≠ [] ∧ digits.all Char.isDigit then
    let value := Nat.ofDigitChars 10 digits 0
    if value < limit then some value else none
  else none

/-- `Display` of an unsigned integer. -/
def decimal (value : Nat) : Str := Nat.toDigits 10 value

theorem isDigit_of_mem_decimal
    {value : Nat}
    {character : Char}
    (member : character ∈ decimal value) :
    character.isDigit = true :=
  Nat.isDigit_of_mem_toDigits (by decide) (by decide) member

theorem decimal_ne_nil (value : Nat) : decimal value ≠ [] :=
  Nat.toDigits_ne_nil

theorem toNat_of_isDigit
    {character : Char}
    (digit : character.isDigit = true) :
    48 ≤ character.toNat ∧ character.toNat ≤ 57 := by
  simpa [Char.isDigit, UInt32.le_iff_toNat_le] using digit

theorem isWhitespace_of_isDigit
    {character : Char}
    (digit : character.isDigit = true) :
    isWhitespace character = false := by
  obtain ⟨lower, upper⟩ := toNat_of_isDigit digit
  simp only [isWhitespace, Bool.or_eq_false_iff, Bool.and_eq_false_imp,
    decide_eq_true_eq, decide_eq_false_iff_not, beq_eq_false_iff_ne]
  omega

/-- A decimal rendering is a token. -/
theorem isToken_decimal (value : Nat) : IsToken (decimal value) where
  nonempty := decimal_ne_nil value
  solid := fun _ member => isWhitespace_of_isDigit (isDigit_of_mem_decimal member)

/-- No character outside the digits occurs in a decimal rendering. -/
theorem not_mem_decimal
    {character : Char}
    (noDigit : character.isDigit = false)
    (value : Nat) :
    character ∉ decimal value := by
  intro member
  rw [isDigit_of_mem_decimal member] at noDigit
  contradiction

/-- Parsing undoes rendering for every value the type can hold. -/
theorem parseUnsigned_decimal
    {limit value : Nat}
    (bounded : value < limit) :
    parseUnsigned limit (decimal value) = some value := by
  have noSign : unsignedDigits (decimal value) = decimal value := by
    have noPlus : '+' ∉ decimal value := not_mem_decimal (by decide) value
    cases rendered : decimal value with
    | nil => rfl
    | cons head tail =>
        rw [rendered] at noPlus
        simp only [List.mem_cons, not_or] at noPlus
        unfold unsignedDigits
        split
        · rename_i plus
          injection plus with head_eq
          exact absurd head_eq.symm noPlus.1
        · rfl
  have digits : (decimal value).all Char.isDigit = true :=
    List.all_eq_true.mpr fun _ member => isDigit_of_mem_decimal member
  have value_eq : Nat.ofDigitChars 10 (decimal value) 0 = value :=
    Nat.ofDigitChars_ten_toDigits
  simp [parseUnsigned, noSign, decimal_ne_nil, digits, value_eq, bounded]

example : parseUnsigned (2 ^ 32) "+0042".toList = some 42 := by decide

end Rust
