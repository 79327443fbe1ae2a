import Mathlib.Algebra.Order.BigOperators.Group.List
import Mathlib.Algebra.Order.Group.Nat
import Pop3.Mailbox.Server

/-!
# Parsing a mailbox's answers

What the parsers make of the lines that a mailbox's server writes.
-/

namespace Pop3

open Rust Framing

/-! ## Errors -/

/-- Two texts without the delimiter in front of one are the same. -/
theorem append_delimiter_inj
    {delimiter : Char}
    {left right after after' : Str}
    (leftFree : delimiter ∉ left)
    (rightFree : delimiter ∉ right)
    (same : left ++ delimiter :: after = right ++ delimiter :: after') :
    left = right ∧ after = after' := by
  induction left generalizing right with
  | nil =>
      cases right with
      | nil => exact ⟨rfl, by simpa using same⟩
      | cons character right =>
          simp only [List.nil_append, List.cons_append, List.cons.injEq] at same
          simp [same.1] at rightFree
  | cons character left inductionHypothesis =>
      simp only [List.mem_cons, not_or] at leftFree
      cases right with
      | nil =>
          simp only [List.nil_append, List.cons_append, List.cons.injEq] at same
          exact absurd same.1.symm leftFree.1
      | cons character' right =>
          simp only [List.mem_cons, not_or] at rightFree
          simp only [List.cons_append, List.cons.injEq] at same
          obtain ⟨rfl, tails⟩ := same
          obtain ⟨rfl, rfl⟩ := inductionHypothesis leftFree.2 rightFree.2 tails
          exact ⟨rfl, rfl⟩

/-- The code that is found is the one in the brackets. -/
theorem stripPrefix_code
    {code other : Str}
    (codeClosed : ']' ∉ code)
    (otherClosed : ']' ∉ other)
    (rest : Str) :
    stripPrefix ("[".toList ++ code ++ "]".toList) ('[' :: (other ++ ']' :: rest)) =
      if other = code then some rest else none := by
  split
  · rename_i same
    subst same
    have regroup : '[' :: (other ++ ']' :: rest) =
        ("[".toList ++ other ++ "]".toList) ++ rest := by simp
    rw [regroup, stripPrefix_append]
  · rename_i different
    apply stripPrefix_eq_none
    rintro ⟨after, same⟩
    have inner : code ++ ']' :: after = other ++ ']' :: rest := by simpa using same
    exact different (append_delimiter_inj codeClosed otherClosed inner).1.symm

/-- Without a closing bracket there is no code. -/
theorem stripPrefix_noCode
    {code text : Str}
    (absent : ∀ inner, text = '[' :: inner → ']' ∉ inner) :
    stripPrefix ("[".toList ++ code ++ "]".toList) text = none := by
  apply stripPrefix_eq_none
  rintro ⟨rest, rfl⟩
  exact absent (code ++ ']' :: rest) (by simp) (by simp)

theorem mappedError_noCode
    {text : Str}
    (absent : ∀ inner, text = '[' :: inner → ']' ∉ inner) :
    mappedError text = .serverError text := by
  simp only [mappedError, respCodes, List.findSome?_cons, List.findSome?_nil,
    stripPrefix_noCode absent, Option.map_none, Option.getD_none]

theorem find_eq_none {pattern : Char} {text : Str} (none_eq : find pattern text = none) :
    pattern ∉ text := by
  induction text with
  | nil => simp
  | cons character text inductionHypothesis =>
      unfold find at none_eq
      split at none_eq
      · contradiction
      · rename_i different
        simp only [Option.map_eq_none_iff] at none_eq
        simp [Ne.symm different, inductionHypothesis none_eq]

/-- The parser maps the text of a negative answer to its error. -/
theorem parseRespCode_eq (text : Str) : parseRespCode text = mappedError text := by
  unfold parseRespCode
  split
  · rename_i unbracketed
    rw [mappedError_noCode]
    rintro inner rfl
    have found := stripPrefix_append "[".toList inner
    exact absurd (unbracketed.symm.trans found) (by simp)
  · rename_i inner bracketed
    have text_eq : text = '[' :: inner := eq_of_stripPrefix bracketed
    split
    · rename_i unclosed
      rw [mappedError_noCode]
      rintro inner' same
      rw [text_eq] at same
      injection same with _ same
      rw [← same]
      exact find_eq_none unclosed
    · rename_i close found
      obtain ⟨code, rest, rfl, codeClosed, rfl⟩ := find_eq_some found
      have before := sliceTo_append code (']' :: rest) (isCharBoundary_of_find found)
      have behind : sliceFrom (code ++ ']' :: rest) (byteLength code + 1)
          (isCharBoundary_succ_of_find rfl found) = rest := by
        have split := splitAtByte_append (code ++ [']']) rest
        have lengths : byteLength (code ++ [']']) = byteLength code + 1 := by simp; rfl
        rw [lengths, List.append_assoc, List.singleton_append] at split
        rw [sliceFrom, split]
      have known : ∀ other : Str, ']' ∉ other →
          stripPrefix ("[".toList ++ other ++ "]".toList) text =
            if code = other then some rest else none := by
        intro other closed
        rw [text_eq, stripPrefix_code closed codeClosed]
      rw [before, behind]
      simp only [mappedError, respCodes, List.findSome?_cons, List.findSome?_nil]
      rw [known "IN-USE".toList (by decide), known "LOGIN-DELAY".toList (by decide),
        known "SYS/TEMP".toList (by decide), known "SYS/PERM".toList (by decide),
        known "AUTH".toList (by decide)]
      split_ifs <;> rfl

/-! ## Listings -/

theorem IsUniqueId.isToken {text : Str} (isUniqueId : IsUniqueId text) : IsToken text where
  nonempty := isUniqueId.nonempty
  solid := by
    intro character member
    obtain ⟨lower, upper⟩ := isUniqueId.printable character member
    simp only [isWhitespace, Bool.or_eq_false_iff, Bool.and_eq_false_imp,
      decide_eq_true_eq, decide_eq_false_iff_not, beq_eq_false_iff_ne]
    omega

theorem trimStart_token_append {token : Str} (isToken : IsToken token) (rest : Str) :
    trimStart (token ++ rest) = token ++ rest := by
  obtain ⟨head, tail, rfl⟩ := List.exists_cons_of_ne_nil isToken.nonempty
  exact trimStart_cons_of_solid (isToken.solid head (by simp)) _

/-- A line of two tokens is its own trimming, and has these two words. -/
theorem fields_tokens
    {left right : Line}
    (leftToken : IsToken left.text)
    (rightToken : IsToken right.text) :
    trimStart (fields left right).text = (fields left right).text ∧
      trim (fields left right).text = (fields left right).text ∧
      splitWhitespace (fields left right).text = [left.text, right.text] := by
  refine ⟨trimStart_token_append leftToken _, ?_, ?_⟩
  · have regroup : (fields left right).text = left.text ++ [' '] ++ right.text := by
      simp [fields]
    rw [regroup, trim_tokens leftToken rightToken]
  · exact (splitWhitespace_keyword leftToken _).trans
      (congrArg _ (splitWhitespace_token rightToken))

theorem isToken_numberLine (value : Nat) : IsToken (numberLine value).text :=
  isToken_decimal value

namespace Mailbox

/-- Every message of a mailbox has a size below the limit. -/
theorem size_lt_of_mem
    {mailbox : Mailbox}
    {messageId : UInt32}
    {mail : Mail}
    (member : (messageId, mail) ∈ mailbox.present) :
    mail.size < UInt64.size := by
  have original : mail ∈ mailbox.mails := by
    obtain ⟨numbered, _⟩ := List.mem_filter.mp member
    obtain ⟨⟨mail', index⟩, inMails, same⟩ := List.mem_map.mp numbered
    cases same
    exact List.fst_mem_of_mem_zipIdx inMails
  have bounded : mail.size ≤ (mailbox.mails.map Mail.size).sum :=
    List.single_le_sum (fun _ _ => Nat.zero_le _) _ (List.mem_map_of_mem original)
  exact bounded.trans_lt mailbox.sizeFits

/-- The unmarked messages are some of all messages. -/
theorem present_sublist (mailbox : Mailbox) :
    (mailbox.present.map Prod.snd).Sublist mailbox.mails := by
  have all : mailbox.numbered.map Prod.snd = mailbox.mails := by
    rw [numbered, List.map_map]
    exact List.zipIdx_map_fst 0 mailbox.mails
  exact all ▸ List.filter_sublist.map Prod.snd

theorem length_present_lt (mailbox : Mailbox) :
    mailbox.present.length < UInt32.size := by
  have shorter := mailbox.present_sublist.length_le
  rw [List.length_map] at shorter
  exact shorter.trans_lt mailbox.countFits

theorem totalSize_lt (mailbox : Mailbox) : mailbox.totalSize < UInt64.size := by
  have smaller := (mailbox.present_sublist.map Mail.size).sum_le_sum
    fun _ _ => Nat.zero_le _
  rw [List.map_map] at smaller
  exact smaller.trans_lt mailbox.sizeFits

theorem find_mem
    {mailbox : Mailbox}
    {messageId : UInt32}
    {mail : Mail}
    (found : mailbox.find messageId = some mail) :
    (messageId, mail) ∈ mailbox.present := by
  obtain ⟨before, after, split, _⟩ := List.lookup_eq_some_iff.mp found
  rw [split]
  simp

theorem okOr_some_bind (value : α) (error : ε) (next : α → Except ε β) :
    okOr (some value) error >>= next = next value := rfl

/-- A line of the scan listing is parsed as its entry. -/
theorem parseListEntry_scanLine
    {messageId : UInt32}
    {mail : Mail}
    (fits : mail.size < UInt64.size) :
    parseListEntry (scanLine messageId mail).text = .ok (listEntry messageId mail) := by
  obtain ⟨_, trimmed, words⟩ :=
    fields_tokens (isToken_numberLine messageId.toNat) (isToken_numberLine mail.size)
  have number : parseU32 (numberLine messageId.toNat).text = some messageId :=
    parseU32_toNat messageId
  have size : parseU64 (numberLine mail.size).text = some (UInt64.ofNat mail.size) :=
    parseU64_decimal fits
  unfold parseListEntry scanLine
  dsimp only
  rw [trimmed, words]
  simp only [List.getElem?_cons_zero, List.getElem?_cons_succ, List.getElem?_nil,
    okOr_some_bind, number, size]
  rfl

/-- A number and a token are parsed as a message number and a unique id. -/
theorem parseUidlEntry_fields
    (messageId : UInt32)
    {token : Line}
    (isToken : IsToken token.text) :
    parseUidlEntry (fields (numberLine messageId.toNat) token).text =
      .ok { messageId, uniqueId := token.text } := by
  obtain ⟨_, trimmed, words⟩ :=
    fields_tokens (isToken_numberLine messageId.toNat) isToken
  have number : parseU32 (numberLine messageId.toNat).text = some messageId :=
    parseU32_toNat messageId
  unfold parseUidlEntry
  dsimp only
  rw [trimmed, words]
  simp only [List.getElem?_cons_zero, List.getElem?_cons_succ, List.getElem?_nil,
    okOr_some_bind, number]
  rfl

/-- A line of the unique-id listing is parsed as its entry. -/
theorem parseUidlEntry_uidlLine
    (messageId : UInt32)
    (mail : Mail) :
    parseUidlEntry (uidlLine messageId mail).text = .ok (uidlEntry messageId mail) := by
  have isToken : IsToken mail.uidLine.text := mail.isUniqueId.isToken
  exact parseUidlEntry_fields messageId isToken

/-- Nothing stands in front of the entry in a status line. -/
theorem trimStart_scanLine (messageId : UInt32) (mail : Mail) :
    trimStart (scanLine messageId mail).text = (scanLine messageId mail).text :=
  trimStart_token_append (isToken_numberLine _) _

theorem trimStart_uidlLine (messageId : UInt32) (mail : Mail) :
    trimStart (uidlLine messageId mail).text = (uidlLine messageId mail).text :=
  trimStart_token_append (isToken_numberLine _) _

/-- The first two words of the drop listing, and nothing in front of them. -/
theorem words_dropLine (mailbox : Mailbox) (further : Line) :
    trimStart (mailbox.dropLine further).text = (mailbox.dropLine further).text ∧
      ∃ others, splitWhitespace (mailbox.dropLine further).text =
        (numberLine mailbox.present.length).text ::
          (numberLine mailbox.totalSize).text :: others := by
  have count := isToken_numberLine mailbox.present.length
  have size := isToken_numberLine mailbox.totalSize
  have numbers := fields_tokens count size
  unfold dropLine
  dsimp only
  split
  · exact ⟨numbers.1, [], numbers.2.2⟩
  · have regroup : (fields (fields (numberLine mailbox.present.length)
        (numberLine mailbox.totalSize)) further).text =
          (numberLine mailbox.present.length).text ++
            ' ' :: ((numberLine mailbox.totalSize).text ++ ' ' :: further.text) := by
      simp [fields]
    rw [regroup, splitWhitespace_keyword count, splitWhitespace_keyword size]
    exact ⟨trimStart_token_append count _, _, rfl⟩

/-- The drop listing is parsed as what it says. -/
theorem parseStat_dropLine (mailbox : Mailbox) (further : Line) :
    parseStat (trimStart (mailbox.dropLine further).text) = .ok mailbox.stat := by
  obtain ⟨trimmed, others, words⟩ := mailbox.words_dropLine further
  have count : parseU32 (numberLine mailbox.present.length).text =
      some (UInt32.ofNat mailbox.present.length) :=
    parseU32_decimal mailbox.length_present_lt
  have size : parseU64 (numberLine mailbox.totalSize).text =
      some (UInt64.ofNat mailbox.totalSize) :=
    parseU64_decimal mailbox.totalSize_lt
  unfold parseStat
  dsimp only
  rw [trimmed, words]
  simp only [List.getElem?_cons_zero, List.getElem?_cons_succ, okOr_some_bind, count, size]
  rfl

theorem mapM_of_ok
    {rows : List α}
    {parse : α → Except ε β}
    {entry : α → β}
    (parses : ∀ row ∈ rows, parse row = .ok (entry row)) :
    rows.mapM parse = .ok (rows.map entry) := by
  induction rows with
  | nil => rfl
  | cons row rows inductionHypothesis =>
      rw [List.mapM_cons, parses row List.mem_cons_self,
        inductionHypothesis fun other member => parses other (List.mem_cons_of_mem _ member)]
      rfl

/-- Lines that are parsed one by one are parsed together. -/
theorem mapM_lines_joined
    {rows : List α}
    {line : α → Line}
    {parse : Str → Except Pop3Error β}
    {entry : α → β}
    (nonempty : ∀ row ∈ rows, (line row).text ≠ [])
    (parses : ∀ row ∈ rows, parse (line row).text = .ok (entry row)) :
    ((lines (joined ((rows.map line).map Line.text))).filter (!·.isEmpty)).mapM parse =
      .ok (rows.map entry) := by
  rw [filter_lines_joined nonempty, List.mapM_map]
  exact mapM_of_ok parses

theorem fields_ne_nil (left right : Line) : (fields left right).text ≠ [] := by
  simp [fields]

/-- The scan listing is parsed as the entries of the mailbox. -/
theorem parseListMulti_scanLines (mailbox : Mailbox) :
    parseListMulti (joined ((mailbox.present.map fun (messageId, mail) =>
      scanLine messageId mail).map Line.text)) = .ok mailbox.listing :=
  mapM_lines_joined (fun _ _ => fields_ne_nil _ _)
    fun _ member => parseListEntry_scanLine (size_lt_of_mem member)

/-- The unique-id listing is parsed as the entries of the mailbox. -/
theorem parseUidlMulti_uidlLines (mailbox : Mailbox) :
    parseUidlMulti (joined ((mailbox.present.map fun (messageId, mail) =>
      uidlLine messageId mail).map Line.text)) = .ok mailbox.uids :=
  mapM_lines_joined (fun _ _ => fields_ne_nil _ _)
    fun _ _ => parseUidlEntry_uidlLine _ _

end Mailbox

end Pop3
