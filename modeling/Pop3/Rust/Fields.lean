import Pop3.Rust.Str

/-!
# Fields of a line

What `split_whitespace` and `parse` accept, said without them: how a text
spells a list of fields, and how digits spell a number.
-/

namespace Rust

/-- Nothing but whitespace. -/
def IsBlank (text : Str) : Prop := ∀ character ∈ text, isWhitespace character = true

/-- The text is empty or begins with whitespace. -/
def IsApart (text : Str) : Prop :=
  ∀ character ∈ text.head?, isWhitespace character = true

/-- The text consists of the fields, surrounded and set apart by whitespace. -/
inductive Spells : List Str → Str → Prop
  | blank {space : Str} (isBlank : IsBlank space) : Spells [] space
  | field {fields : List Str} {space token rest : Str} (isBlank : IsBlank space)
      (isToken : IsToken token) (apart : IsApart rest) (more : Spells fields rest) :
      Spells (token :: fields) (space ++ token ++ rest)

/-- The text is digits, with a plus sign in front or none, that stand for the
value. -/
def IsUnsigned (text : Str) (value : Nat) : Prop :=
  ∃ digits, (text = digits ∨ text = '+' :: digits) ∧ digits ≠ [] ∧
    (∀ digit ∈ digits, digit.isDigit = true) ∧ Nat.ofDigitChars 10 digits 0 = value

theorem isBlank_nil : IsBlank [] := by
  intro character member
  cases member

theorem IsBlank.append {left right : Str} (leftBlank : IsBlank left)
    (rightBlank : IsBlank right) : IsBlank (left ++ right) := by
  intro character member
  rcases List.mem_append.mp member with member | member
  · exact leftBlank character member
  · exact rightBlank character member

theorem splitWhitespace_blank {space : Str} (isBlank : IsBlank space) (rest : Str) :
    splitWhitespace (space ++ rest) = splitWhitespace rest := by
  induction space with
  | nil => rfl
  | cons character space inductionHypothesis =>
      rw [List.cons_append, splitWhitespace_space (isBlank character (by simp)),
        inductionHypothesis fun other member => isBlank other (by simp [member])]

/-- A token comes first when it ends where whitespace begins. -/
theorem splitWhitespace_apart
    {token rest : Str}
    (isToken : IsToken token)
    (apart : IsApart rest) :
    splitWhitespace (token ++ rest) = token :: splitWhitespace rest := by
  cases rest with
  | nil => rw [List.append_nil, splitWhitespace_token isToken, splitWhitespace_nil]
  | cons separator rest =>
      have space : isWhitespace separator = true := apart separator rfl
      rw [splitWhitespace_token_append isToken space, splitWhitespace_space space]

/-! ## Spelling fields -/

namespace Spells

variable {fields : List Str} {text : Str}

theorem splitWhitespace_eq (spelled : Spells fields text) :
    splitWhitespace text = fields := by
  induction spelled with
  | blank isBlank =>
      have pieces := splitWhitespace_blank isBlank []
      rwa [List.append_nil, splitWhitespace_nil] at pieces
  | field isBlank isToken apart _ inductionHypothesis =>
      rw [List.append_assoc, splitWhitespace_blank isBlank,
        splitWhitespace_apart isToken apart, inductionHypothesis]

/-- Whitespace in front changes no field. -/
theorem after {space : Str} (isBlank : IsBlank space) (spelled : Spells fields text) :
    Spells fields (space ++ text) := by
  cases spelled with
  | blank textBlank => exact .blank (isBlank.append textBlank)
  | field textBlank isToken apart more =>
      rw [← List.append_assoc, ← List.append_assoc]
      exact .field (isBlank.append textBlank) isToken apart more

/-- Whitespace behind changes no field. -/
theorem before {space : Str} (isBlank : IsBlank space) (spelled : Spells fields text) :
    Spells fields (text ++ space) := by
  induction spelled with
  | blank textBlank => exact .blank (textBlank.append isBlank)
  | @field fields front token rest textBlank isToken apart more inductionHypothesis =>
      rw [List.append_assoc]
      refine .field textBlank isToken ?_ inductionHypothesis
      cases rest with
      | nil => exact fun character first => isBlank character (List.mem_of_head? first)
      | cons separator rest => exact apart

/-- A solid character either stands alone or begins the first field. -/
theorem begun {character : Char} (solid : isWhitespace character = false)
    (spelled : Spells fields text) : ∃ fields, Spells fields (character :: text) := by
  have alone : IsToken [character] := ⟨by simp, by simpa using solid⟩
  by_cases apart : IsApart text
  · exact ⟨[character] :: fields, .field isBlank_nil alone apart spelled⟩
  · cases spelled with
    | blank isBlank =>
        exact absurd (fun other first => isBlank other (List.mem_of_head? first)) apart
    | @field fields space token rest isBlank isToken restApart more =>
        cases space with
        | nil =>
            have longer : IsToken (character :: token) := by
              refine ⟨by simp, ?_⟩
              intro other member
              rcases List.mem_cons.mp member with rfl | member
              · exact solid
              · exact isToken.solid other member
            exact ⟨(character :: token) :: fields, .field isBlank_nil longer restApart more⟩
        | cons separator space =>
            refine absurd ?_ apart
            intro other first
            obtain rfl : separator = other := by simpa using first
            exact isBlank separator (by simp)

/-- Every text spells some fields. -/
theorem exists_fields (text : Str) : ∃ fields, Spells fields text := by
  induction text with
  | nil => exact ⟨[], .blank isBlank_nil⟩
  | cons character text inductionHypothesis =>
      obtain ⟨fields, spelled⟩ := inductionHypothesis
      cases space : isWhitespace character with
      | true =>
          have single : IsBlank [character] := by simp [IsBlank, space]
          exact ⟨fields, after single spelled⟩
      | false => exact begun space spelled

end Spells

/-- `split_whitespace` returns exactly the fields that the text spells. -/
theorem splitWhitespace_eq_iff {text : Str} {fields : List Str} :
    splitWhitespace text = fields ↔ Spells fields text := by
  constructor
  · rintro rfl
    obtain ⟨fields, spelled⟩ := Spells.exists_fields text
    rwa [spelled.splitWhitespace_eq]
  · exact Spells.splitWhitespace_eq

theorem spells_splitWhitespace (text : Str) : Spells (splitWhitespace text) text :=
  splitWhitespace_eq_iff.mp rfl

/-- No text spells an empty field. -/
theorem Spells.isToken {fields : List Str} {text : Str} (spelled : Spells fields text) :
    ∀ field ∈ fields, IsToken field := by
  induction spelled with
  | blank _ =>
      intro field member
      cases member
  | field _ isToken _ _ inductionHypothesis =>
      intro field member
      rcases List.mem_cons.mp member with rfl | member
      · exact isToken
      · exact inductionHypothesis field member

/-- Only a blank text spells no field. -/
theorem spells_nil_iff {text : Str} : Spells [] text ↔ IsBlank text := by
  constructor
  · intro spelled
    cases spelled with
    | blank isBlank => exact isBlank
  · exact .blank

/-! ## Trimming -/

theorem exists_trimStart (text : Str) :
    ∃ space, IsBlank space ∧ text = space ++ trimStart text := by
  refine ⟨text.takeWhile isWhitespace, ?_, List.takeWhile_append_dropWhile.symm⟩
  intro character member
  exact List.mem_takeWhile_imp member

theorem exists_trimEnd (text : Str) :
    ∃ space, IsBlank space ∧ text = trimEnd text ++ space := by
  refine ⟨text.rtakeWhile isWhitespace, ?_, (List.rdropWhile_append_rtakeWhile ..).symm⟩
  intro character member
  exact List.mem_rtakeWhile_imp member

/-- Trimming takes whitespace from both ends and nothing else. -/
theorem exists_trim (text : Str) :
    ∃ front back, IsBlank front ∧ IsBlank back ∧ text = front ++ trim text ++ back := by
  obtain ⟨front, frontBlank, text_eq⟩ := exists_trimStart text
  obtain ⟨back, backBlank, trimmed⟩ := exists_trimEnd (trimStart text)
  exact ⟨front, back, frontBlank, backBlank, by rw [List.append_assoc, trim, ← trimmed, ← text_eq]⟩

/-- Trimming changes no field. -/
theorem splitWhitespace_trim (text : Str) :
    splitWhitespace (trim text) = splitWhitespace text := by
  obtain ⟨front, back, frontBlank, backBlank, text_eq⟩ := exists_trim text
  have spelled := ((spells_splitWhitespace (trim text)).after frontBlank).before backBlank
  rw [← text_eq] at spelled
  exact spelled.splitWhitespace_eq.symm

/-- Exactly the blank texts are trimmed to nothing. -/
theorem trim_eq_nil_iff {text : Str} : trim text = [] ↔ IsBlank text := by
  constructor
  · intro trimmed
    obtain ⟨front, back, frontBlank, backBlank, text_eq⟩ := exists_trim text
    rw [text_eq, trimmed, List.append_nil]
    exact frontBlank.append backBlank
  · intro isBlank
    have started : trimStart text = [] := by
      rw [trimStart, List.dropWhile_eq_nil_iff]
      exact isBlank
    rw [trim, started]
    rfl

/-! ## Numbers -/

theorem unsignedDigits_plus (digits : Str) (nonempty : digits ≠ []) :
    unsignedDigits ('+' :: digits) = digits := by
  obtain ⟨head, tail, rfl⟩ := List.exists_cons_of_ne_nil nonempty
  rfl

theorem unsignedDigits_digits {digits : Str}
    (isDigits : ∀ digit ∈ digits, digit.isDigit = true) : unsignedDigits digits = digits := by
  unfold unsignedDigits
  split
  · have plus := isDigits '+' (by simp)
    cases plus
  · rfl

theorem unsignedDigits_cases (text : Str) :
    text = unsignedDigits text ∨ text = '+' :: unsignedDigits text := by
  unfold unsignedDigits
  split
  · exact .inr rfl
  · exact .inl rfl

/-- `parse` accepts exactly the digits of a value that the type can hold. -/
theorem parseUnsigned_eq_some_iff {limit value : Nat} {text : Str} :
    parseUnsigned limit text = some value ↔ IsUnsigned text value ∧ value < limit := by
  constructor
  · intro parsed
    unfold parseUnsigned at parsed
    dsimp only at parsed
    split at parsed
    · rename_i digits
      split at parsed
      · rename_i bounded
        cases parsed
        exact ⟨⟨unsignedDigits text, unsignedDigits_cases text, digits.1,
          List.all_eq_true.mp digits.2, rfl⟩, bounded⟩
      · cases parsed
    · cases parsed
  · rintro ⟨⟨digits, spelled, nonempty, isDigits, rfl⟩, bounded⟩
    have skipped : unsignedDigits text = digits := by
      rcases spelled with rfl | rfl
      · exact unsignedDigits_digits isDigits
      · exact unsignedDigits_plus digits nonempty
    have allDigits : digits.all Char.isDigit = true := List.all_eq_true.mpr isDigits
    simp [parseUnsigned, skipped, nonempty, allDigits, bounded]

end Rust
