import Pop3.Client
import Pop3.Rust.Slices

/-!
# Status lines, exactly

What the status line, the response code in it and the timestamp of a greeting
say, and that finding it out never panics.
-/

namespace Pop3

open Rust

/-! ## The language -/

/-- The text is empty or begins with ASCII whitespace. -/
def IsSetOff (text : Str) : Prop := ∀ character ∈ text.head?, character ∈ asciiSpaces

/-- Without its ending the line is the keyword with the rest set off behind it. -/
structure Announces (keyword rest line : Str) : Prop where
  trimmed : Transport.trimLine line = keyword ++ rest
  setOff : IsSetOff rest

/-- The response codes that have an error of their own. -/
inductive RespCode
  | inUse | loginDelay | sysTemp | sysPerm | auth
  deriving DecidableEq

def RespCode.name : RespCode → Str
  | .inUse => "IN-USE".toList
  | .loginDelay => "LOGIN-DELAY".toList
  | .sysTemp => "SYS/TEMP".toList
  | .sysPerm => "SYS/PERM".toList
  | .auth => "AUTH".toList

def RespCode.error : RespCode → Str → Pop3Error
  | .inUse => .mailboxInUse
  | .loginDelay => .loginDelay
  | .sysTemp => .sysTemp
  | .sysPerm => .sysPerm
  | .auth => .authFailed

/-- The text is a response code in brackets and the message behind it. -/
def Carries (text : Str) (code : RespCode) (message : Str) : Prop :=
  text = '[' :: (code.name ++ ']' :: message)

/-- From the first `<` to the first `>` behind it. -/
def IsTimestamp (greeting timestamp : Str) : Prop :=
  ∃ before inside after, greeting = before ++ '<' :: (inside ++ '>' :: after) ∧
    '<' ∉ before ∧ '>' ∉ inside ∧ timestamp = '<' :: (inside ++ ['>'])

/-! ## With every slice and index checked -/

namespace Checked

/-- `parse_resp_code`; none is a panic. -/
def parseRespCode (text : Str) : Option Pop3Error :=
  match stripPrefix "[".toList text with
  | none => some (.serverError text)
  | some inner =>
      match find ']' inner with
      | none => some (.serverError text)
      | some close => do
          let (code, _) ← splitAtByte? close inner
          let (_, behind) ← splitAtByte? (close + 1) inner
          let rest := trimStart behind
          return if code = "IN-USE".toList then .mailboxInUse rest
            else if code = "LOGIN-DELAY".toList then .loginDelay rest
            else if code = "SYS/TEMP".toList then .sysTemp rest
            else if code = "SYS/PERM".toList then .sysPerm rest
            else if code = "AUTH".toList then .authFailed rest
            else .serverError text

/-- The guard of `parse_status_line`; none is a panic. -/
def hasKeyword (keyword line : Str) : Option Bool :=
  if keyword <+: line then
    if byteLength line = byteLength keyword then some true
    else ((utf8 line)[byteLength keyword]?).map isAsciiWhitespace
  else some false

/-- `parse_status_line`; none is a panic. -/
def parseStatusLine (line : Str) : Option (Except Pop3Error Str) := do
  let line := trimEndMatches "\n".toList (trimEndMatches "\r\n".toList line)
  match ← hasKeyword "+OK".toList line with
  | true =>
      let (_, text) ← splitAtByte? 3 line
      return .ok (trimStart text)
  | false =>
      match ← hasKeyword "-ERR".toList line with
      | true =>
          let (_, text) ← splitAtByte? 4 line
          let error ← parseRespCode (trimStart text)
          return .error error
      | false => return .error (.parse ("unexpected response: ".toList ++ line))

/-- `extract_apop_timestamp`; the outer none is a panic. -/
def extractApopTimestamp (greeting : Str) : Option (Option Str) :=
  match find '<' greeting with
  | none => some none
  | some start => do
      let (_, tail) ← splitAtByte? start greeting
      match find '>' tail with
      | none => return none
      | some stop =>
          let (timestamp, _) ← splitAtByte? (stop + 1) tail
          return some timestamp

end Checked

/-! ## Brackets and timestamps -/

theorem find_append
    {pattern : Char}
    {before : Str}
    (absent : pattern ∉ before)
    (after : Str) :
    find pattern (before ++ pattern :: after) = some (byteLength before) := by
  induction before with
  | nil => simp [find]
  | cons character before inductionHypothesis =>
      simp only [List.mem_cons, not_or] at absent
      have different : character ≠ pattern := fun equal => absent.1 equal.symm
      rw [List.cons_append, find, if_neg different, inductionHypothesis absent.2,
        Option.map_some, byteLength_cons]

theorem find_of_absent {pattern : Char} {text : Str} (absent : pattern ∉ text) :
    find pattern text = none := by
  cases found : find pattern text with
  | none => rfl
  | some offset =>
      obtain ⟨before, after, rfl, _⟩ := find_eq_some found
      simp at absent

/-- A character occurs for a first time or not at all. -/
theorem exists_first_or_absent (pattern : Char) (text : Str) :
    (∃ before after, text = before ++ pattern :: after ∧ pattern ∉ before) ∨
      pattern ∉ text := by
  cases found : find pattern text with
  | some offset =>
      obtain ⟨before, after, text_eq, absent, _⟩ := find_eq_some found
      exact .inl ⟨before, after, text_eq, absent⟩
  | none =>
      refine .inr fun member => ?_
      obtain ⟨before, after, text_eq, absent⟩ := List.eq_append_cons_of_mem member
      rw [text_eq, find_append absent] at found
      cases found

/-- The error of a text with a code in brackets and the rest behind them. -/
def codeError (text code rest : Str) : Pop3Error :=
  if code = RespCode.inUse.name then .mailboxInUse rest
  else if code = RespCode.loginDelay.name then .loginDelay rest
  else if code = RespCode.sysTemp.name then .sysTemp rest
  else if code = RespCode.sysPerm.name then .sysPerm rest
  else if code = RespCode.auth.name then .authFailed rest
  else .serverError text

/-- What is behind a delimiter of one byte. -/
theorem splitAtByte_succ {delimiter : Char} (single : delimiter.utf8Size = 1)
    (before after : Str) :
    splitAtByte (byteLength before + 1) (before ++ delimiter :: after) =
      (before ++ [delimiter], after) := by
  have length_eq : byteLength (before ++ [delimiter]) = byteLength before + 1 := by
    simp [single]
  have regroup : before ++ delimiter :: after = (before ++ [delimiter]) ++ after := by simp
  rw [← length_eq, regroup, splitAtByte_append]

theorem parseRespCode_bracketed
    {code : Str}
    (absent : ']' ∉ code)
    (message : Str) :
    parseRespCode ('[' :: (code ++ ']' :: message)) =
      codeError ('[' :: (code ++ ']' :: message)) code (trimStart message) := by
  have stripped : stripPrefix "[".toList ('[' :: (code ++ ']' :: message)) =
      some (code ++ ']' :: message) := stripPrefix_append _ _
  have located := find_append absent message
  unfold parseRespCode
  simp only [stripped]
  split
  · rename_i found
    rw [located] at found
    cases found
  · rename_i close found
    rw [located] at found
    cases found
    have single : Char.utf8Size ']' = 1 := by decide
    simp only [sliceTo, sliceFrom, splitAtByte_append, splitAtByte_succ single]
    rfl

theorem parseRespCode_plain
    {text : Str}
    (plain : ∀ code message, text ≠ '[' :: (code ++ ']' :: message)) :
    parseRespCode text = .serverError text := by
  unfold parseRespCode
  cases stripped : stripPrefix "[".toList text with
  | none => rfl
  | some inner =>
      have text_eq : text = '[' :: inner := eq_of_stripPrefix stripped
      dsimp only
      split
      · rfl
      · rename_i found
        obtain ⟨code, message, inner_eq, _⟩ := find_eq_some found
        rw [inner_eq] at text_eq
        exact absurd text_eq (plain code message)

/-- A text either has brackets in front or has none. -/
theorem bracketed_or_plain (text : Str) :
    (∃ code message, text = '[' :: (code ++ ']' :: message) ∧ ']' ∉ code) ∨
      ∀ code message, text ≠ '[' :: (code ++ ']' :: message) := by
  by_cases bracketed : ∃ code message, text = '[' :: (code ++ ']' :: message)
  · obtain ⟨code, message, rfl⟩ := bracketed
    rcases exists_first_or_absent ']' (code ++ ']' :: message) with
      ⟨before, after, same, absent⟩ | absent
    · exact .inl ⟨before, after, by rw [same], absent⟩
    · simp at absent
  · exact .inr fun code message same => bracketed ⟨code, message, same⟩

theorem find_bracket_plain
    {inner : Str}
    (plain : ∀ code message, '[' :: inner ≠ '[' :: (code ++ ']' :: message)) :
    find ']' inner = none := by
  refine find_of_absent fun member => ?_
  obtain ⟨code, message, rfl⟩ := List.append_of_mem member
  exact plain code message rfl

/-! ## Status lines -/

/-- The byte behind the keyword decides. -/
theorem hasKeyword_iff {keyword line : Str} :
    hasKeyword keyword line = true ↔ ∃ rest, line = keyword ++ rest ∧ IsSetOff rest := by
  constructor
  · intro has
    obtain ⟨rest, rfl⟩ := prefix_of_hasKeyword has
    refine ⟨rest, rfl, ?_⟩
    intro character first
    obtain ⟨tail, rfl⟩ := List.head?_eq_some_iff.mp first
    unfold hasKeyword at has
    rw [dif_pos (List.prefix_append _ _)] at has
    have positive := character.utf8Size_pos
    have longer : byteLength (keyword ++ character :: tail) ≠ byteLength keyword := by
      rw [byteLength_append, byteLength_cons]
      omega
    rw [dif_neg longer] at has
    refine mem_asciiSpaces_of_byte ?_ has
    obtain ⟨byte, bytes, encoded⟩ := List.exists_cons_of_ne_nil
      (String.utf8EncodeChar_ne_nil (c := character))
    simp [utf8, byteLength, List.getElem_append_right, encoded]
  · rintro ⟨rest, rfl, setOff⟩
    unfold hasKeyword
    rw [dif_pos (List.prefix_append _ _)]
    cases rest with
    | nil => rw [dif_pos (by rw [List.append_nil])]
    | cons character tail =>
        obtain ⟨encoded, space⟩ := isAsciiWhitespace_asciiByte (setOff character rfl)
        have positive := character.utf8Size_pos
        have longer : byteLength (keyword ++ character :: tail) ≠ byteLength keyword := by
          rw [byteLength_append, byteLength_cons]
          omega
        rw [dif_neg longer]
        simpa [utf8, byteLength, List.getElem_append_right, encoded] using space

theorem hasKeyword_trimLine {keyword line : Str} :
    hasKeyword keyword (Transport.trimLine line) = true ↔
      ∃ rest, Announces keyword rest line := by
  rw [hasKeyword_iff]
  exact exists_congr fun rest => ⟨fun ⟨trimmed, setOff⟩ => ⟨trimmed, setOff⟩,
    fun announces => ⟨announces.trimmed, announces.setOff⟩⟩

/-- No line is positive and negative. -/
theorem not_announces_ok_of_err {line rest : Str} (negative : Announces "-ERR".toList rest line) :
    ¬∃ rest, Announces "+OK".toList rest line := by
  rintro ⟨other, positive⟩
  have same := positive.trimmed.symm.trans negative.trimmed
  cases same

theorem parseStatusLine_of_ok {line rest : Str} (positive : Announces "+OK".toList rest line) :
    parseStatusLine line = .ok (trimStart rest) := by
  have trimmed := positive.trimmed
  have has : hasKeyword "+OK".toList ("+OK".toList ++ rest) = true :=
    hasKeyword_iff.mpr ⟨rest, rfl, positive.setOff⟩
  unfold Transport.trimLine at trimmed
  unfold parseStatusLine
  simp only [trimmed]
  rw [dif_pos has, sliceFrom_append]

theorem parseStatusLine_of_err {line rest : Str} (negative : Announces "-ERR".toList rest line) :
    parseStatusLine line = .error (parseRespCode (trimStart rest)) := by
  have trimmed := negative.trimmed
  have has : hasKeyword "-ERR".toList ("-ERR".toList ++ rest) = true :=
    hasKeyword_iff.mpr ⟨rest, rfl, negative.setOff⟩
  have noOk := not_announces_ok_of_err negative
  rw [← hasKeyword_trimLine, trimmed] at noOk
  unfold Transport.trimLine at trimmed
  unfold parseStatusLine
  simp only [trimmed]
  rw [dif_neg noOk, dif_pos has, sliceFrom_append]

theorem parseStatusLine_of_neither
    {line : Str}
    (noOk : ¬∃ rest, Announces "+OK".toList rest line)
    (noErr : ¬∃ rest, Announces "-ERR".toList rest line) :
    parseStatusLine line =
      .error (.parse ("unexpected response: ".toList ++ Transport.trimLine line)) := by
  rw [← hasKeyword_trimLine] at noOk noErr
  unfold parseStatusLine
  exact (dif_neg noOk).trans (dif_neg noErr)

/-- A refusal is never reported as a malformed line. -/
theorem parseRespCode_ne_parse (text message : Str) : parseRespCode text ≠ .parse message := by
  rcases bracketed_or_plain text with ⟨code, inside, rfl, absent⟩ | plain
  · rw [parseRespCode_bracketed absent]
    unfold codeError
    repeat' split
    all_goals simp
  · rw [parseRespCode_plain plain]
    simp

/-! ## Timestamps -/

theorem find_closing {inside : Str} (noClosing : '>' ∉ inside) (after : Str) :
    find '>' ('<' :: (inside ++ '>' :: after)) = some (byteLength ('<' :: inside)) := by
  have absent : '>' ∉ '<' :: inside := by simp [noClosing]
  exact find_append absent after

theorem find_unclosed {tail : Str} (noClosing : '>' ∉ tail) : find '>' ('<' :: tail) = none :=
  find_of_absent (by simp [noClosing])

theorem splitAtByte_timestamp (inside after : Str) :
    splitAtByte (byteLength ('<' :: inside) + 1) ('<' :: (inside ++ '>' :: after)) =
      ('<' :: (inside ++ ['>']), after) := by
  have single : Char.utf8Size '>' = 1 := by decide
  exact splitAtByte_succ single ('<' :: inside) after

theorem extractApopTimestamp_of_brackets
    {before inside after : Str}
    (noOpening : '<' ∉ before)
    (noClosing : '>' ∉ inside) :
    extractApopTimestamp (before ++ '<' :: (inside ++ '>' :: after)) =
      some ('<' :: (inside ++ ['>'])) := by
  have opened := find_append noOpening (inside ++ '>' :: after)
  have closed := find_closing noClosing after
  unfold extractApopTimestamp
  split
  · rename_i found
    rw [opened] at found
    cases found
  · rename_i start found
    rw [opened] at found
    cases found
    simp only [sliceFrom_append]
    split
    · rename_i found
      rw [sliceFrom_append, closed] at found
      cases found
    · rename_i stop found
      rw [sliceFrom_append, closed] at found
      cases found
      rw [sliceTo, splitAtByte_timestamp]

theorem extractApopTimestamp_of_unclosed
    {before tail : Str}
    (noOpening : '<' ∉ before)
    (noClosing : '>' ∉ tail) :
    extractApopTimestamp (before ++ '<' :: tail) = none := by
  have opened := find_append noOpening tail
  unfold extractApopTimestamp
  split
  · rfl
  · rename_i start found
    rw [opened] at found
    cases found
    simp only [sliceFrom_append]
    split
    · rfl
    · rename_i stop found
      rw [sliceFrom_append, find_unclosed noClosing] at found
      cases found

theorem extractApopTimestamp_of_unopened {greeting : Str} (noOpening : '<' ∉ greeting) :
    extractApopTimestamp greeting = none := by
  unfold extractApopTimestamp
  split
  · rfl
  · rename_i start found
    rw [find_of_absent noOpening] at found
    cases found

/-! ## Nothing panics -/

namespace Checked

theorem parseRespCode_eq (text : Str) :
    parseRespCode text = some (Pop3.parseRespCode text) := by
  rcases bracketed_or_plain text with ⟨code, message, rfl, absent⟩ | plain
  · have stripped : stripPrefix "[".toList ('[' :: (code ++ ']' :: message)) =
        some (code ++ ']' :: message) := stripPrefix_append _ _
    have single : Char.utf8Size ']' = 1 := by decide
    have located := find_append absent message
    rw [parseRespCode_bracketed absent, parseRespCode]
    simp only [stripped, located]
    rw [splitAtByte?_append,
      splitAtByte?_of_isCharBoundary (isCharBoundary_succ_of_find single located),
      splitAtByte_succ single]
    rfl
  · rw [parseRespCode_plain plain, parseRespCode]
    cases stripped : stripPrefix "[".toList text with
    | none => rfl
    | some inner =>
        have text_eq : text = '[' :: inner := eq_of_stripPrefix stripped
        subst text_eq
        dsimp only
        rw [find_bracket_plain plain]

theorem hasKeyword_eq (keyword line : Str) :
    hasKeyword keyword line = some (Pop3.hasKeyword keyword line) := by
  unfold hasKeyword Pop3.hasKeyword
  split
  · split
    · rfl
    · rename_i isPrefix whole
      obtain ⟨rest, rfl⟩ := isPrefix
      have inRange : byteLength keyword < (utf8 (keyword ++ rest)).length := by
        have shorter : byteLength keyword ≤ byteLength (keyword ++ rest) := by simp
        exact lt_of_le_of_ne shorter (Ne.symm whole)
      rw [List.getElem?_eq_getElem inRange]
      rfl
  · rfl

theorem parseStatusLine_eq (line : Str) :
    parseStatusLine line = some (Pop3.parseStatusLine line) := by
  have unfolded : parseStatusLine line =
      (hasKeyword "+OK".toList (Transport.trimLine line)).bind fun positive =>
        match positive with
        | true => (splitAtByte? 3 (Transport.trimLine line)).bind fun split =>
            some (.ok (trimStart split.2))
        | false => (hasKeyword "-ERR".toList (Transport.trimLine line)).bind fun negative =>
            match negative with
            | true => (splitAtByte? 4 (Transport.trimLine line)).bind fun split =>
                (parseRespCode (trimStart split.2)).bind fun error => some (.error error)
            | false => some (.error
                (.parse ("unexpected response: ".toList ++ Transport.trimLine line))) := rfl
  rw [unfolded, hasKeyword_eq, hasKeyword_eq]
  by_cases positive : ∃ rest, Announces "+OK".toList rest line
  · obtain ⟨rest, announces⟩ := positive
    have sliced : splitAtByte? 3 (Transport.trimLine line) = some ("+OK".toList, rest) := by
      rw [announces.trimmed]
      exact splitAtByte?_append "+OK".toList rest
    rw [hasKeyword_trimLine.mpr ⟨rest, announces⟩, parseStatusLine_of_ok announces]
    simp only [Option.bind_some, sliced]
  · have noOk := Bool.eq_false_iff.mpr (mt hasKeyword_trimLine.mp positive)
    rw [noOk]
    by_cases negative : ∃ rest, Announces "-ERR".toList rest line
    · obtain ⟨rest, announces⟩ := negative
      have sliced : splitAtByte? 4 (Transport.trimLine line) = some ("-ERR".toList, rest) := by
        rw [announces.trimmed]
        exact splitAtByte?_append "-ERR".toList rest
      rw [hasKeyword_trimLine.mpr ⟨rest, announces⟩, parseStatusLine_of_err announces]
      simp only [Option.bind_some, sliced, parseRespCode_eq]
    · rw [Bool.eq_false_iff.mpr (mt hasKeyword_trimLine.mp negative),
        parseStatusLine_of_neither positive negative]
      rfl

theorem extractApopTimestamp_eq (greeting : Str) :
    extractApopTimestamp greeting = some (Pop3.extractApopTimestamp greeting) := by
  rcases exists_first_or_absent '<' greeting with ⟨before, tail, rfl, noOpening⟩ | noOpening
  · rw [extractApopTimestamp, find_append noOpening]
    dsimp only
    rw [splitAtByte?_append]
    rcases exists_first_or_absent '>' tail with ⟨inside, after, rfl, noClosing⟩ | noClosing
    · have located := find_closing noClosing after
      have single : Char.utf8Size '>' = 1 := by decide
      have sliced := splitAtByte?_of_isCharBoundary (isCharBoundary_succ_of_find single located)
      rw [splitAtByte_timestamp] at sliced
      rw [extractApopTimestamp_of_brackets noOpening noClosing]
      simp only [located, sliced, bind, Option.bind, pure]
    · rw [extractApopTimestamp_of_unclosed noOpening noClosing]
      simp [find_unclosed noClosing]
  · rw [extractApopTimestamp, find_of_absent noOpening, extractApopTimestamp_of_unopened noOpening]

end Checked

/-! ## The language of status lines -/

/-- A recognized code gives its error with the message behind the bracket. -/
theorem parseRespCode_of_carries
    {text message : Str}
    {code : RespCode}
    (carries : Carries text code message) :
    parseRespCode text = code.error (trimStart message) := by
  have absent : ']' ∉ code.name := by cases code <;> decide
  rw [carries, parseRespCode_bracketed absent]
  cases code <;> rfl

theorem codeError_of_unknown
    {text code : Str}
    (unknown : ∀ known : RespCode, code ≠ known.name)
    (rest : Str) :
    codeError text code rest = .serverError text := by
  unfold codeError
  rw [if_neg (unknown .inUse), if_neg (unknown .loginDelay), if_neg (unknown .sysTemp),
    if_neg (unknown .sysPerm), if_neg (unknown .auth)]

/-- Every other text is kept whole. -/
theorem parseRespCode_of_other
    {text : Str}
    (other : ∀ code message, ¬Carries text code message) :
    parseRespCode text = .serverError text := by
  rcases bracketed_or_plain text with ⟨code, message, rfl, absent⟩ | plain
  · rw [parseRespCode_bracketed absent]
    refine codeError_of_unknown ?_ _
    rintro known rfl
    exact other known message rfl
  · exact parseRespCode_plain plain

/-- The extracted timestamp is what stands between the first brackets. -/
theorem extractApopTimestamp_eq_some_iff {greeting timestamp : Str} :
    extractApopTimestamp greeting = some timestamp ↔ IsTimestamp greeting timestamp := by
  constructor
  · intro extracted
    rcases exists_first_or_absent '<' greeting with ⟨before, tail, rfl, noOpening⟩ | noOpening
    · rcases exists_first_or_absent '>' tail with ⟨inside, after, rfl, noClosing⟩ | noClosing
      · rw [extractApopTimestamp_of_brackets noOpening noClosing] at extracted
        cases extracted
        exact ⟨before, inside, after, rfl, noOpening, noClosing, rfl⟩
      · rw [extractApopTimestamp_of_unclosed noOpening noClosing] at extracted
        cases extracted
    · rw [extractApopTimestamp_of_unopened noOpening] at extracted
      cases extracted
  · rintro ⟨before, inside, after, rfl, noOpening, noClosing, rfl⟩
    exact extractApopTimestamp_of_brackets noOpening noClosing

/-- No slice or index of the three parsers is out of range or off a character
boundary, and each says exactly what the line says. -/
theorem status_exact :
    (∀ line, Checked.parseStatusLine line = some (parseStatusLine line)) ∧
    (∀ text, Checked.parseRespCode text = some (parseRespCode text)) ∧
    (∀ greeting, Checked.extractApopTimestamp greeting =
      some (extractApopTimestamp greeting)) ∧
    (∀ line, (∃ text, parseStatusLine line = .ok text) ↔
      ∃ rest, Announces "+OK".toList rest line) ∧
    (∀ line, (∃ error, parseStatusLine line = .error error ∧
        ∀ message, error ≠ .parse message) ↔
      ∃ rest, Announces "-ERR".toList rest line) ∧
    (∀ line, (∃ message, parseStatusLine line = .error (.parse message)) ↔
      (¬∃ rest, Announces "+OK".toList rest line) ∧
        ¬∃ rest, Announces "-ERR".toList rest line) ∧
    (∀ line rest, Announces "-ERR".toList rest line →
      (∀ code message, Carries (trimStart rest) code message →
        parseStatusLine line = .error (code.error (trimStart message))) ∧
      ((∀ code message, ¬Carries (trimStart rest) code message) →
        parseStatusLine line = .error (.serverError (trimStart rest)))) ∧
    (∀ greeting timestamp, extractApopTimestamp greeting = some timestamp ↔
      IsTimestamp greeting timestamp) := by
  refine ⟨Checked.parseStatusLine_eq, Checked.parseRespCode_eq,
    Checked.extractApopTimestamp_eq, ?_, ?_, ?_, ?_,
    fun _ _ => extractApopTimestamp_eq_some_iff⟩
  · intro line
    constructor
    · rintro ⟨text, positive⟩
      by_contra noOk
      by_cases negative : ∃ rest, Announces "-ERR".toList rest line
      · obtain ⟨rest, announces⟩ := negative
        rw [parseStatusLine_of_err announces] at positive
        cases positive
      · rw [parseStatusLine_of_neither noOk negative] at positive
        cases positive
    · rintro ⟨rest, announces⟩
      exact ⟨_, parseStatusLine_of_ok announces⟩
  · intro line
    constructor
    · rintro ⟨error, refused, notParse⟩
      by_contra noErr
      by_cases positive : ∃ rest, Announces "+OK".toList rest line
      · obtain ⟨rest, announces⟩ := positive
        rw [parseStatusLine_of_ok announces] at refused
        cases refused
      · rw [parseStatusLine_of_neither positive noErr] at refused
        cases refused
        exact notParse _ rfl
    · rintro ⟨rest, announces⟩
      exact ⟨_, parseStatusLine_of_err announces, parseRespCode_ne_parse _⟩
  · intro line
    constructor
    · rintro ⟨message, malformed⟩
      constructor
      · rintro ⟨rest, announces⟩
        rw [parseStatusLine_of_ok announces] at malformed
        cases malformed
      · rintro ⟨rest, announces⟩
        rw [parseStatusLine_of_err announces] at malformed
        injection malformed with same
        exact parseRespCode_ne_parse _ _ same
    · rintro ⟨noOk, noErr⟩
      exact ⟨_, parseStatusLine_of_neither noOk noErr⟩
  · intro line rest announces
    rw [parseStatusLine_of_err announces]
    exact ⟨fun code message carries => by rw [parseRespCode_of_carries carries],
      fun other => by rw [parseRespCode_of_other other]⟩

end Pop3
