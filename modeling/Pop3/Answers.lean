import Pop3.Dialogue
import Pop3.Forgery

/-!
# Reading answers

What a client reads off the bytes of an answer is the answer.
-/

namespace Pop3

open Rust Framing

/-! ## Status lines -/

theorem byteLength_lt_of_ne_nil
    {suffix : Str}
    (nonempty : suffix ≠ []) :
    0 < byteLength suffix := by
  rw [byteLength, List.length_pos_iff]
  simpa using nonempty

/-- A space or CR comes first, if anything does. -/
def IsSpaced (suffix : Str) : Prop :=
  suffix = [] ∨ ∃ character rest, suffix = character :: rest ∧ character ∈ [' ', '\r']

/-- A keyword alone, or with a space behind it, is recognized. -/
theorem hasKeyword_append
    {keyword suffix : Str}
    (spaced : IsSpaced suffix) :
    hasKeyword keyword (keyword ++ suffix) = true := by
  unfold hasKeyword
  rw [dif_pos (List.prefix_append keyword suffix)]
  rcases spaced with rfl | ⟨character, rest, rfl, blank⟩
  · simp
  · have encoded : ∃ byte, String.utf8EncodeChar character = [byte] ∧
        isAsciiWhitespace byte = true := by
      rw [List.mem_pair] at blank
      rcases blank with rfl | rfl
      · exact ⟨32, by decide, by decide⟩
      · exact ⟨13, by decide, by decide⟩
    obtain ⟨byte, encoded, whitespace⟩ := encoded
    have longer : byteLength (keyword ++ character :: rest) ≠ byteLength keyword := by
      rw [byteLength_append]
      have := byteLength_lt_of_ne_nil (List.cons_ne_nil character rest)
      omega
    rw [dif_neg longer]
    have behind : (utf8 (keyword ++ character :: rest))[byteLength keyword]? = some byte := by
      rw [utf8_append, List.getElem?_append_right (by simp [byteLength])]
      simp [byteLength, encoded]
    obtain ⟨_, byte_eq⟩ := List.getElem?_eq_some_iff.mp behind
    rw [List.get_eq_getElem]
    simp only [byte_eq, whitespace]

theorem hasKeyword_eq_false
    {keyword line : Str}
    (absent : ¬keyword <+: line) :
    hasKeyword keyword line = false := by
  unfold hasKeyword
  rw [dif_neg absent]

/-- A trimmed line that starts with `+OK` is a positive status. -/
theorem parseStatusLine_positive
    {line suffix : Str}
    (trimmed : Transport.trimLine line = "+OK".toList ++ suffix)
    (spaced : IsSpaced suffix) :
    parseStatusLine line = .ok (trimStart suffix) := by
  unfold Transport.trimLine at trimmed
  unfold parseStatusLine
  simp only [trimmed]
  rw [dif_pos (hasKeyword_append spaced), sliceFrom_append]

/-- A trimmed line that starts with `-ERR` is a negative status. -/
theorem parseStatusLine_negative
    {line suffix : Str}
    (trimmed : Transport.trimLine line = "-ERR".toList ++ suffix)
    (spaced : IsSpaced suffix) :
    parseStatusLine line = .error (parseRespCode (trimStart suffix)) := by
  have noOk : hasKeyword "+OK".toList ("-ERR".toList ++ suffix) = false :=
    hasKeyword_eq_false (by
      rintro ⟨rest, same⟩
      simp at same)
  unfold Transport.trimLine at trimmed
  unfold parseStatusLine
  simp only [trimmed]
  rw [dif_neg (Bool.eq_false_iff.mp noOk), dif_pos (hasKeyword_append spaced),
    sliceFrom_append]

theorem suffix_spaced (text : Line) : IsSpaced (Answer.suffix text) := by
  unfold Answer.suffix
  split
  · exact .inl rfl
  · exact .inr ⟨' ', _, rfl, List.mem_cons_self⟩

theorem trimStart_suffix (text : Line) :
    trimStart (Answer.suffix text) = trimStart text.text := by
  unfold Answer.suffix
  split
  · rename_i empty
    rw [empty]
  · exact trimStart_space _

theorem not_mem_suffix
    {character : Char}
    {text : Line}
    (noSpace : character ≠ ' ')
    (absent : character ∉ text.text) :
    character ∉ Answer.suffix text := by
  unfold Answer.suffix
  split
  · simp
  · simp [noSpace, absent]

namespace Answer

theorem not_mem_status
    {character : Char}
    {answer : Answer}
    (noKeyword : character ∉ " +OK-ERR".toList)
    (absent : character ∉ answer.text.text) :
    character ∉ answer.status := by
  have noSpace : character ≠ ' ' := by
    rintro rfl
    exact noKeyword (by decide)
  unfold status
  rw [List.mem_append, not_or]
  refine ⟨fun member => noKeyword ?_, not_mem_suffix noSpace absent⟩
  split at member
  · exact List.mem_of_mem_drop (i := 1) (List.mem_of_mem_take (i := 3) member)
  · exact List.mem_of_mem_drop (i := 4) member

theorem noFeed_status (answer : Answer) : '\n' ∉ answer.status :=
  not_mem_status (by decide) answer.text.noFeed

theorem trimLine_status (answer : Answer) :
    Transport.trimLine (answer.status ++ crlf) = answer.status := by
  have ending : answer.status ++ crlf = answer.status ++ ['\r'] ++ ['\n'] := by
    simp [crlf]
  rw [ending, Transport.trimLine_return answer.noFeed_status]

/-- The status line of an answer is parsed as the answer. -/
theorem parseStatusLine_status (answer : Answer) :
    parseStatusLine (answer.status ++ crlf) = answer.statusResult := by
  have trimmed := answer.trimLine_status
  have spaced := suffix_spaced answer.text
  unfold status at trimmed ⊢
  unfold statusResult
  by_cases positive : answer.isPositive
  · rw [if_pos positive] at trimmed ⊢
    rw [if_pos positive, parseStatusLine_positive trimmed spaced, trimStart_suffix]
  · rw [if_neg positive] at trimmed ⊢
    rw [if_neg positive, parseStatusLine_negative trimmed spaced, trimStart_suffix]

end Answer

/-! ## Bodies -/

/-- A line of a body, as the reader sees it. -/
def bodyLine (text : Str) : Str := stuff text ++ ['\r']

theorem noFeed_bodyLine {text : Str} (noFeed : '\n' ∉ text) : '\n' ∉ bodyLine text := by
  have stuffed : '\n' ∉ stuff text := by rwa [mem_stuff (by decide)]
  simp [bodyLine, stuffed]

theorem trimLine_bodyLine {text : Str} (noFeed : '\n' ∉ text) :
    Transport.trimLine (bodyLine text ++ ['\n']) = stuff text := by
  have stuffed : '\n' ∉ stuff text := by rwa [mem_stuff (by decide)]
  exact Transport.trimLine_return stuffed

theorem not_endsBody_bodyLine {text : Str} (noFeed : '\n' ∉ text) :
    ¬View.EndsBody (bodyLine text) := by
  rw [View.EndsBody, trimLine_bodyLine noFeed]
  exact stuff_ne_dot text

/-- Unstuffing undoes stuffing. -/
theorem unstuff_stuff (line : Str) : Transport.unstuff (stuff line) = line := by
  unfold Transport.unstuff
  rcases stuff_eq line with ⟨same, noDot⟩ | ⟨rest, rfl, dotted⟩
  · have absent : ¬"..".toList <+: stuff line := by
      rw [same]
      rintro ⟨rest, rfl⟩
      simp at noDot
    rw [stripPrefix_eq_none absent, same]
  · have found : stripPrefix "..".toList (stuff ('.' :: rest)) = some rest := by
      rw [dotted]
      exact stripPrefix_append "..".toList rest
    rw [found]
    rfl

theorem content_bodyLine {text : Str} (noFeed : '\n' ∉ text) :
    View.content (bodyLine text) = text ++ ['\n'] := by
  rw [View.content, trimLine_bodyLine noFeed, unstuff_stuff]

/-- Lines of text as they are sent. -/
theorem encodeLines_encode (lines : List Line) :
    encodeLines (lines.map Line.encode) =
      utf8 (joined (lines.map fun line => bodyLine line.text)) := by
  induction lines with
  | nil => rfl
  | cons line lines inductionHypothesis =>
      have ending : utf8 ['\r'] ++ utf8 ['\n'] = [13, 10] := by decide
      have first : utf8 (bodyLine line.text ++ ['\n']) =
          stuffOctets (utf8 line.text) ++ [13, 10] := by
        rw [bodyLine, utf8_append, utf8_append, utf8_stuff, List.append_assoc, ending]
      rw [encodeLines, joined] at inductionHypothesis
      rw [encodeLines, joined]
      simp only [List.map_cons, List.flatMap_cons]
      rw [utf8_append, first, inductionHypothesis]
      rfl

/-- Plain octet lines that are all text. -/
theorem exists_lines_of_isUtf8
    {body : List OctetLine}
    (plain : ∀ line ∈ body, line.IsPlain)
    (isText : ∀ line ∈ body, IsUtf8 line.octets) :
    ∃ lines : List Line, body = lines.map Line.encode := by
  induction body with
  | nil => exact ⟨[], rfl⟩
  | cons octetLine body inductionHypothesis =>
      obtain ⟨lines, rfl⟩ := inductionHypothesis
        (fun line member => plain line (List.mem_cons_of_mem _ member))
        fun line member => isText line (List.mem_cons_of_mem _ member)
      obtain ⟨text, octets⟩ := (isUtf8_iff _).mp (isText octetLine List.mem_cons_self)
      obtain ⟨noReturn, noFeed⟩ := plain octetLine List.mem_cons_self
      obtain ⟨octetsOf, noCrlf⟩ := octetLine
      subst octets
      exact ⟨⟨text, by simpa using noReturn, by simpa using noFeed⟩ :: lines, rfl⟩

/-- The text that octet lines spell. -/
theorem exists_texts_of_isUtf8
    {body : List OctetLine}
    (isText : ∀ line ∈ body, IsUtf8 line.octets) :
    ∃ texts : List Str, body.map OctetLine.octets = texts.map utf8 := by
  refine ⟨body.map fun line => (fromUtf8 line.octets).getD [], ?_⟩
  rw [List.map_map]
  refine List.map_congr_left fun line member => ?_
  obtain ⟨text, decoded⟩ := Option.isSome_iff_exists.mp (isText line member)
  simp [decoded, utf8_of_fromUtf8_eq_some decoded]

theorem forges_iff_of_octets
    {line : OctetLine}
    {text : Str}
    (spells : line.octets = utf8 text) :
    line.Forges ↔ Forges text := by
  have dot : [46] = utf8 ['.'] := by decide
  rw [OctetLine.Forges, Forges, spells, splitOn_utf8, ← List.map_tail, dot,
    List.mem_map_of_injective utf8_injective]

theorem noCrlf_of_octets
    {line : OctetLine}
    {text : Str}
    (spells : line.octets = utf8 text) :
    ¬crlf <:+: text := by
  rintro ⟨before, after, rfl⟩
  refine line.noCrlf ⟨utf8 before, utf8 after, ?_⟩
  rw [spells, utf8_append, utf8_append, show utf8 crlf = [13, 10] from by decide]

/-- A body of text is sent as the message of its texts. -/
theorem encodeBody_of_texts
    {body : List OctetLine}
    {texts : List Str}
    (spells : body.map OctetLine.octets = texts.map utf8) :
    encodeBody body = utf8 (sent texts) := by
  have ending : utf8 crlf = [13, 10] := by decide
  have lines : ∀ {body : List OctetLine} {texts : List Str},
      body.map OctetLine.octets = texts.map utf8 →
        encodeLines body = utf8 (texts.flatMap fun line => stuff line ++ crlf) := by
    intro body
    induction body with
    | nil =>
        intro texts spells
        rw [List.map_eq_nil_iff.mp spells.symm]
        rfl
    | cons line body inductionHypothesis =>
        intro texts spells
        cases texts with
        | nil => cases spells
        | cons text texts =>
            obtain ⟨first, rest⟩ := List.cons.inj spells
            have behind := inductionHypothesis rest
            rw [encodeLines] at behind
            rw [encodeLines, List.flatMap_cons, List.flatMap_cons, behind, first, utf8_append,
              utf8_append, utf8_stuff, ending]
  rw [encodeBody, lines spells, sent, utf8_append]

theorem Answer.IsPlain.harmless {answer : Answer} (plain : answer.IsPlain) :
    answer.IsHarmless :=
  fun line member => (plain line member).not_forges

/-- Lines of text without CR and LF are clear. -/
theorem Answer.isClear_of_lines
    {answer : Answer}
    {lines : List Line}
    (encoded : answer.body = lines.map Line.encode) :
    answer.IsClear := by
  have each : ∀ octetLine ∈ answer.body, ∃ line : Line, octetLine = line.encode := by
    intro octetLine member
    rw [encoded] at member
    obtain ⟨line, _, same⟩ := List.mem_map.mp member
    exact ⟨line, same.symm⟩
  constructor
  · intro octetLine member
    obtain ⟨line, rfl⟩ := each octetLine member
    exact isUtf8_utf8 line.text
  · intro octetLine member
    obtain ⟨line, rfl⟩ := each octetLine member
    exact line.isPlain_encode.not_forges

/-- Text without LF is received as it is. -/
theorem received_of_noFeed {line : Str} (noFeed : '\n' ∉ line) : received line = [line] := by
  rw [received, splitOn_of_not_mem noFeed]
  rfl

theorem Answer.bodyText_of_texts
    {answer : Answer}
    {texts : List Str}
    (spells : answer.body.map OctetLine.octets = texts.map utf8) :
    answer.bodyText = joined (texts.flatMap received) := by
  have each : (answer.body.flatMap fun line => received ((fromUtf8 line.octets).getD [])) =
      (answer.body.map OctetLine.octets).flatMap fun octets =>
        received ((fromUtf8 octets).getD []) := by
    rw [List.flatMap_map]
  rw [bodyText, each, spells, List.flatMap_map]
  simp

theorem Answer.bodyText_of_lines
    {answer : Answer}
    {lines : List Line}
    (encoded : answer.body = lines.map Line.encode) :
    answer.bodyText = joined (lines.map Line.text) := by
  have spells : answer.body.map OctetLine.octets = (lines.map Line.text).map utf8 := by
    rw [encoded, List.map_map, List.map_map]
    rfl
  rw [Answer.bodyText_of_texts spells, List.flatMap_map, List.map_eq_flatMap]
  exact congrArg joined (List.flatMap_congr fun line _ => received_of_noFeed line.noFeed)

theorem bodyText_encode (positive : Bool) (text : Line) (lines : List Line) :
    (Answer.mk positive text (lines.map Line.encode)).bodyText =
      joined (lines.map Line.text) :=
  Answer.bodyText_of_lines rfl

/-- What a body gains from the lines of a message. -/
theorem content_seenLines
    {message : List Str}
    (noCrlf : ∀ line ∈ message, ¬crlf <:+: line) :
    (seenLines message).flatMap View.content = joined (message.flatMap received) := by
  rw [seenLines, List.flatMap_assoc, joined, List.flatMap_assoc]
  refine List.flatMap_congr fun line member => ?_
  have noReturns : NoReturns '\r' ((stuff line).splitOn '\n') :=
    noReturns_splitOn fun inStuffed => noCrlf line member (infix_of_infix_stuff inStuffed)
  rw [content_addReturn (not_mem_of_mem_splitOn _) noReturns, joined]
  cases split : line.splitOn '\n' with
  | nil => exact absurd split (List.splitOn_ne_nil '\n' line)
  | cons first rest =>
      rw [splitOn_stuff split, received, split, List.map_cons, unstuff_stuff]

namespace View

variable {view : View σ}

/-- A whole body that is clear is read, and nothing behind it. -/
theorem readMultiline_of_clear
    {answer : Answer}
    (clear : answer.IsClear)
    {rest : List UInt8}
    (pending : view.pending = encodeBody answer.body ++ rest) :
    view.readMultiline = .ok answer.bodyText { view with pending := rest } := by
  obtain ⟨texts, spells⟩ := exists_texts_of_isUtf8 clear.isText
  have each : ∀ text ∈ texts, ∃ line ∈ answer.body, line.octets = utf8 text := by
    intro text member
    have encoded : utf8 text ∈ answer.body.map OctetLine.octets := by
      rw [spells]
      exact List.mem_map_of_mem member
    exact List.mem_map.mp encoded
  have noCrlf : ∀ text ∈ texts, ¬crlf <:+: text := by
    intro text member
    obtain ⟨line, _, same⟩ := each text member
    exact noCrlf_of_octets same
  have goesOn : ∀ text ∈ seenLines texts, ¬EndsBody text := by
    intro text member ends
    obtain ⟨forging, inTexts, forges⟩ := (endsBody_seenLines_iff noCrlf).mp ⟨text, member, ends⟩
    obtain ⟨line, inBody, same⟩ := each forging inTexts
    exact clear.harmless line inBody ((forges_iff_of_octets same).mpr forges)
  have framed : view.pending =
      utf8 (joined (seenLines texts)) ++ (utf8 (['.', '\r'] ++ ['\n']) ++ rest) := by
    rw [pending, encodeBody_of_texts spells, sent, utf8_append, joined_seenLines,
      List.append_assoc]
    rfl
  rw [readMultiline_of_body framed (not_mem_seenLines texts) goesOn (by decide)
    endsBody_terminator, content_seenLines noCrlf, Answer.bodyText_of_texts spells]

/-- A status line is read, and nothing behind it. -/
theorem readLine_of_status
    {answer : Answer}
    {rest : List UInt8}
    (pending : view.pending = utf8 (answer.status ++ crlf) ++ rest) :
    view.readLine = .ok (answer.status ++ crlf) { view with pending := rest } := by
  have ending : answer.status ++ crlf = (answer.status ++ ['\r']) ++ ['\n'] := by
    simp [crlf]
  have noFeed : '\n' ∉ answer.status ++ ['\r'] := by simp [answer.noFeed_status]
  rw [ending] at pending ⊢
  exact readLine_of_text pending noFeed

end View

end Pop3
