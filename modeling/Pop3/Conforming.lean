import Pop3.Operations
import Pop3.Parsing.Listings
import Pop3.Truncation.Calls

/-!
# Conforming listings

The replies to `STAT`, `LIST` and `UIDL` that a conforming server may give, and
which of them are accepted.
-/

namespace Pop3

open Rust Framing Pop3Client

/-! ## What a conforming server writes -/

/-- Digits that stand for a number below the limit. -/
structure Numeral (limit : Nat) where
  digits : Str
  nonempty : digits ≠ []
  isDigits : ∀ digit ∈ digits, digit.isDigit = true
  bounded : Nat.ofDigitChars 10 digits 0 < limit

def Numeral.value (numeral : Numeral limit) : Nat := Nat.ofDigitChars 10 numeral.digits 0

/-- Further information: nothing, or a space with any text behind it. -/
structure Further where
  text : Line
  setOff : text.text = [] ∨ ∃ rest, text.text = ' ' :: rest

/-- A number, a space, a size, and what may follow the size: the drop listing of
`STAT`, and a scan listing of `LIST`. -/
structure SizeListing where
  number : Numeral UInt32.size
  size : Numeral UInt64.size
  further : Further

/-- A number, a space and a unique id of printable characters. -/
structure UniqueIdListing where
  number : Numeral UInt32.size
  uniqueId : Str
  nonempty : uniqueId ≠ []
  printable : ∀ character ∈ uniqueId, 0x21 ≤ character.toNat ∧ character.toNat ≤ 0x7E

namespace Numeral

variable {limit : Nat} (numeral : Numeral limit)

theorem isUnsigned : IsUnsigned numeral.digits numeral.value :=
  ⟨numeral.digits, .inl rfl, numeral.nonempty, numeral.isDigits, rfl⟩

theorem isToken : IsToken numeral.digits where
  nonempty := numeral.nonempty
  solid _ member := isWhitespace_of_isDigit (numeral.isDigits _ member)

theorem not_mem {character : Char} (noDigit : character.isDigit = false) :
    character ∉ numeral.digits := by
  intro member
  rw [numeral.isDigits character member] at noDigit
  cases noDigit

theorem toNat_uint32 (numeral : Numeral UInt32.size) :
    (UInt32.ofNat numeral.value).toNat = numeral.value :=
  UInt32.toNat_ofNat_of_lt' numeral.bounded

theorem toNat_uint64 (numeral : Numeral UInt64.size) :
    (UInt64.ofNat numeral.value).toNat = numeral.value :=
  UInt64.toNat_ofNat_of_lt' numeral.bounded

end Numeral

namespace SizeListing

variable (listing : SizeListing)

/-- The line of the listing. -/
def line : Line where
  text := listing.number.digits ++ ' ' :: (listing.size.digits ++ listing.further.text.text)
  noReturn := by
    simp [listing.number.not_mem, listing.size.not_mem, listing.further.text.noReturn]
  noFeed := by
    simp [listing.number.not_mem, listing.size.not_mem, listing.further.text.noFeed]

def stat : Stat where
  messageCount := .ofNat listing.number.value
  mailboxSize := .ofNat listing.size.value

def entry : ListEntry where
  messageId := .ofNat listing.number.value
  size := .ofNat listing.size.value

/-- Nothing but whitespace follows the size. -/
def EndsWithSize : Prop := IsBlank listing.further.text.text

theorem further_apart : IsApart listing.further.text.text := by
  rcases listing.further.setOff with empty | ⟨rest, spaced⟩
  · rw [empty]
    intro character first
    cases first
  · rw [spaced]
    intro character first
    obtain rfl : ' ' = character := by simpa using first
    decide

theorem splitWhitespace_line :
    splitWhitespace listing.line.text =
      listing.number.digits :: listing.size.digits ::
        splitWhitespace listing.further.text.text := by
  have space : isWhitespace ' ' = true := by decide
  rw [line, splitWhitespace_token_append listing.number.isToken space,
    splitWhitespace_apart listing.size.isToken listing.further_apart]

/-- A scan listing is accepted exactly when it ends with the size. -/
theorem parseListEntry_iff :
    parseListEntry listing.line.text = .ok listing.entry ↔ listing.EndsWithSize := by
  rw [parseListEntry_eq_ok_iff, EndsWithSize, ← spells_nil_iff, ← splitWhitespace_eq_iff]
  simp only [IsScan, ← splitWhitespace_eq_iff, splitWhitespace_line, entry,
    Numeral.toNat_uint32, Numeral.toNat_uint64]
  constructor
  · rintro ⟨_, _, same, _⟩
    injection same with _ same
    injection same
  · intro nothing
    exact ⟨_, _, by rw [nothing], listing.number.isUnsigned, listing.size.isUnsigned⟩

/-- A drop listing is accepted, whatever follows the size. -/
theorem parseStat_line : parseStat listing.line.text = .ok listing.stat := by
  have count : parseU32 listing.number.digits = some (.ofNat listing.number.value) :=
    parseU32_eq_some_iff.mpr (by rw [Numeral.toNat_uint32]; exact listing.number.isUnsigned)
  have size : parseU64 listing.size.digits = some (.ofNat listing.size.value) :=
    parseU64_eq_some_iff.mpr (by rw [Numeral.toNat_uint64]; exact listing.size.isUnsigned)
  rw [parseStat, splitWhitespace_line]
  simp only [bind_eq_ok_iff, okOr_eq_ok_iff]
  exact ⟨_, rfl, _, rfl, _, count, _, size, rfl⟩

end SizeListing

namespace UniqueIdListing

variable (listing : UniqueIdListing)

theorem isToken : IsToken listing.uniqueId where
  nonempty := listing.nonempty
  solid character member := by
    obtain ⟨lower, upper⟩ := listing.printable character member
    simp only [isWhitespace, Bool.or_eq_false_iff, Bool.and_eq_false_imp,
      decide_eq_true_eq, decide_eq_false_iff_not, beq_eq_false_iff_ne]
    omega

theorem not_mem {character : Char} (control : character.toNat < 0x21) :
    character ∉ listing.uniqueId := by
  intro member
  have printable := listing.printable character member
  omega

/-- The line of the listing. -/
def line : Line where
  text := listing.number.digits ++ ' ' :: listing.uniqueId
  noReturn := by simp [listing.number.not_mem, listing.not_mem]
  noFeed := by simp [listing.number.not_mem, listing.not_mem]

def entry : UidlEntry where
  messageId := .ofNat listing.number.value
  uniqueId := listing.uniqueId

/-- A unique-id listing is accepted. -/
theorem parseUidlEntry_line : parseUidlEntry listing.line.text = .ok listing.entry := by
  have space : isWhitespace ' ' = true := by decide
  have fields : splitWhitespace listing.line.text = [listing.number.digits, listing.uniqueId] := by
    rw [line, splitWhitespace_token_append listing.number.isToken space,
      splitWhitespace_token listing.isToken]
  rw [parseUidlEntry_eq_ok_iff]
  refine ⟨listing.number.digits, splitWhitespace_eq_iff.mp fields, ?_⟩
  rw [entry, Numeral.toNat_uint32]
  exact listing.number.isUnsigned

end UniqueIdListing

/-! ## Replies -/

/-- A conforming positive reply, with the call that it answers. -/
inductive ListingReply
  | stat (listing : SizeListing)
  | list (text : Line) (listings : List SizeListing)
  | listOne (messageId : UInt32) (valid : messageId ≠ 0) (listing : SizeListing)
  | uidl (text : Line) (listings : List UniqueIdListing)
  | uidlOne (messageId : UInt32) (valid : messageId ≠ 0) (listing : UniqueIdListing)

namespace ListingReply

def call : ListingReply → Call
  | stat _ => .stat
  | list _ _ => .list none
  | listOne messageId _ _ => .list (some messageId)
  | uidl _ _ => .uidl none
  | uidlOne messageId _ _ => .uidl (some messageId)

def command : ListingReply → Str
  | stat _ => "STAT".toList
  | list _ _ => "LIST".toList
  | listOne messageId _ _ => commandFor "LIST ".toList messageId
  | uidl _ _ => "UIDL".toList
  | uidlOne messageId _ _ => commandFor "UIDL ".toList messageId

def answer : ListingReply → Answer
  | stat listing => ⟨true, listing.line, []⟩
  | list text listings => ⟨true, text, (listings.map SizeListing.line).map Line.encode⟩
  | listOne _ _ listing => ⟨true, listing.line, []⟩
  | uidl text listings => ⟨true, text, (listings.map UniqueIdListing.line).map Line.encode⟩
  | uidlOne _ _ listing => ⟨true, listing.line, []⟩

/-- The numbers, sizes and ids of the reply, in order. -/
def value : ListingReply → Value
  | stat listing => .stat listing.stat
  | list _ listings => .listing (listings.map SizeListing.entry)
  | listOne _ _ listing => .listing [listing.entry]
  | uidl _ listings => .uids (listings.map UniqueIdListing.entry)
  | uidlOne _ _ listing => .uids [listing.entry]

/-- No scan listing of the reply has anything but whitespace behind its size. -/
def ScansEndWithSize : ListingReply → Prop
  | list _ listings => ∀ listing ∈ listings, listing.EndsWithSize
  | listOne _ _ listing => listing.EndsWithSize
  | _ => True

end ListingReply

theorem returned_bind_parse
    (action : Action ε S α)
    (parse : α → Except ε β)
    (state : S) :
    returned ((do
      let text ← action
      ofResult (parse text) : Action ε S β) state) = (returned (action state)).bind parse := by
  cases run : action state with
  | ok text after =>
      rw [bind_of_ok run, returned_ofResult]
      rfl
  | error error after =>
      rw [bind_of_error run]
      rfl

theorem Exchange.about_of_ne {messageId : UInt32} (valid : messageId ≠ 0) (exchange : Exchange) :
    exchange.about messageId = some exchange :=
  if_neg valid

section Accepting

variable [AnsweringServer σ] {client : Pop3Client σ} {dialogue : Dialogue σ}

/-- Where nothing is lost, an exchange makes of the answer what it makes of its text. -/
theorem Exchange.returned_answer
    (inSync : InSync calm client dialogue)
    (exchange : Exchange)
    (readable : (dialogue.ask exchange.command).1.IsReadable exchange.multiLine) :
    returned (exchange.run client) =
      ((if exchange.multiLine then (dialogue.ask exchange.command).1.bodyResult
        else (dialogue.ask exchange.command).1.statusResult).bind exchange.parse) := by
  rw [exchange.returned_run inSync.shows]
  unfold Exchange.read
  cases multi : exchange.multiLine with
  | false =>
      have asked : returned (View.readStatus (dialogue.view.hear exchange.command)) =
          (dialogue.ask exchange.command).1.statusResult :=
        (congrArg returned (Dialogue.status_view (exchange.kind.trans multi) dialogue)).trans
          ((Dialogue.returned_moved _ _).trans (Dialogue.returned_take _ _ _))
      exact (returned_bind_parse View.readStatus exchange.parse _).trans
        (congrArg (·.bind exchange.parse) asked)
  | true =>
      rw [multi] at readable
      have asked : returned (View.readReply (dialogue.view.hear exchange.command)) =
          (dialogue.ask exchange.command).1.bodyResult :=
        (congrArg returned (Dialogue.body_view (exchange.kind.trans multi) readable)).trans
          ((Dialogue.returned_moved _ _).trans (Dialogue.returned_take _ _ _))
      exact (returned_bind_parse View.readReply exchange.parse _).trans
        (congrArg (·.bind exchange.parse) asked)

/-- The text of a status line that begins with a number is taken as it is. -/
theorem trimStart_line (listing : SizeListing) :
    trimStart listing.line.text = listing.line.text := by
  obtain ⟨digit, digits, same⟩ := List.exists_cons_of_ne_nil listing.number.nonempty
  have solid := listing.number.isToken.solid digit (by simp [same])
  simp [SizeListing.line, same, trimStart_cons_of_solid solid]

theorem trimStart_uniqueIdLine (listing : UniqueIdListing) :
    trimStart listing.line.text = listing.line.text := by
  obtain ⟨digit, digits, same⟩ := List.exists_cons_of_ne_nil listing.number.nonempty
  have solid := listing.number.isToken.solid digit (by simp [same])
  simp [UniqueIdListing.line, same, trimStart_cons_of_solid solid]

theorem parseListMulti_iff (listings : List SizeListing) :
    parseListMulti (joined ((listings.map SizeListing.line).map Line.text)) =
        .ok (listings.map SizeListing.entry) ↔
      ∀ listing ∈ listings, listing.EndsWithSize := by
  have each : ∀ listing ∈ listings, listing.line.text ≠ [] := by simp [SizeListing.line]
  rw [parseListMulti, filter_lines_joined each, mapM_eq_ok_iff, List.forall₂_map_left_iff,
    List.forall₂_map_right_iff, List.forall₂_same]
  simp only [SizeListing.parseListEntry_iff]

theorem parseUidlMulti_listings (listings : List UniqueIdListing) :
    parseUidlMulti (joined ((listings.map UniqueIdListing.line).map Line.text)) =
      .ok (listings.map UniqueIdListing.entry) := by
  have each : ∀ listing ∈ listings, listing.line.text ≠ [] := by simp [UniqueIdListing.line]
  rw [parseUidlMulti, filter_lines_joined each, mapM_eq_ok_iff, List.forall₂_map_left_iff,
    List.forall₂_map_right_iff, List.forall₂_same]
  exact fun listing _ => listing.parseUidlEntry_line

theorem map_eq_ok_iff {result : Except ε α} {wrap : α → β} {value : α}
    (injective : Function.Injective wrap) :
    result.map wrap = .ok (wrap value) ↔ result = .ok value := by
  cases result with
  | error error => simp [Except.map]
  | ok other => simp [Except.map, injective.eq_iff]

theorem statusResult_positive (text : Line) (body : List OctetLine) :
    (Answer.mk true text body).statusResult = .ok (trimStart text.text) :=
  rfl

theorem bodyResult_lines (text : Line) (lines : List Line) :
    (Answer.mk true text (lines.map Line.encode)).bodyResult =
      .ok (joined (lines.map Line.text)) := by
  rw [Answer.bodyResult, statusResult_positive, bodyText_encode]
  rfl

theorem isReadable_lines (text : Line) (lines : List Line) :
    (Answer.mk true text (lines.map Line.encode)).IsReadable true :=
  (Answer.isClear_of_lines rfl).isReadable true

/-- A call whose answer has no body. -/
theorem Call.returned_of_status [Md5]
    (inSync : InSync calm client dialogue)
    {call : Call}
    {exchange : Exchange}
    (consists : call.exchange = some exchange)
    (single : exchange.multiLine = false)
    {text : Line}
    (replied : (dialogue.ask exchange.command).1 = ⟨true, text, []⟩) :
    returned (call.run client) = exchange.parse (trimStart text.text) := by
  have readable : (dialogue.ask exchange.command).1.IsReadable exchange.multiLine := by
    rw [single]
    exact Answer.isReadable_single _
  rw [Call.run_eq_exchange consists (.inr inSync.authenticated),
    exchange.returned_answer inSync readable, single, replied]
  rfl

/-- A call whose answer has a body. -/
theorem Call.returned_of_body [Md5]
    (inSync : InSync calm client dialogue)
    {call : Call}
    {exchange : Exchange}
    (consists : call.exchange = some exchange)
    (multi : exchange.multiLine = true)
    {text : Line}
    {lines : List Line}
    (replied : (dialogue.ask exchange.command).1 = ⟨true, text, lines.map Line.encode⟩) :
    returned (call.run client) = exchange.parse (joined (lines.map Line.text)) := by
  have readable : (dialogue.ask exchange.command).1.IsReadable exchange.multiLine := by
    rw [multi, replied]
    exact isReadable_lines text lines
  rw [Call.run_eq_exchange consists (.inr inSync.authenticated),
    exchange.returned_answer inSync readable, multi, replied]
  exact congrArg (·.bind exchange.parse) (bodyResult_lines text lines)

/-- A conforming reply is accepted, with exactly its numbers, sizes and ids in order,
if and only if no scan listing has anything but whitespace behind its size. -/
theorem accepted_iff_scansEndWithSize [Md5]
    (inSync : InSync calm client dialogue)
    (reply : ListingReply)
    (replied : (dialogue.ask reply.command).1 = reply.answer) :
    returned (reply.call.run client) = .ok reply.value ↔ reply.ScansEndWithSize := by
  have listingInjective : Function.Injective Value.listing := fun _ _ => Value.listing.inj
  have uidsInjective : Function.Injective Value.uids := fun _ _ => Value.uids.inj
  cases reply with
  | stat listing =>
      refine iff_of_true ?_ trivial
      refine (Call.returned_of_status inSync rfl rfl replied).trans ?_
      rw [trimStart_line]
      exact congrArg (·.map Value.stat) listing.parseStat_line
  | list text listings =>
      rw [ListingReply.call, Call.returned_of_body inSync rfl rfl replied]
      exact (map_eq_ok_iff listingInjective).trans (parseListMulti_iff listings)
  | listOne messageId valid listing =>
      have consists : (Call.list (some messageId)).exchange = _ := Exchange.about_of_ne valid _
      rw [ListingReply.call, Call.returned_of_status inSync consists rfl replied,
        trimStart_line]
      exact (map_eq_ok_iff listingInjective).trans
        ((map_eq_ok_iff List.singleton_injective).trans listing.parseListEntry_iff)
  | uidl text listings =>
      refine iff_of_true ?_ trivial
      refine (Call.returned_of_body inSync rfl rfl replied).trans ?_
      exact (map_eq_ok_iff uidsInjective).mpr (parseUidlMulti_listings listings)
  | uidlOne messageId valid listing =>
      have consists : (Call.uidl (some messageId)).exchange = _ := Exchange.about_of_ne valid _
      refine iff_of_true ?_ trivial
      refine (Call.returned_of_status inSync consists rfl replied).trans ?_
      rw [trimStart_uniqueIdLine]
      exact (map_eq_ok_iff uidsInjective).mpr
        ((map_eq_ok_iff List.singleton_injective).mpr listing.parseUidlEntry_line)

end Accepting

/-! ## A server that says more -/

/-- A scan listing with a word behind its size. -/
def talkativeScan : SizeListing where
  number := ⟨"1".toList, by decide, by simp, by decide⟩
  size := ⟨"120".toList, by decide, by simp, by decide⟩
  further := ⟨⟨" inbox".toList, by decide, by decide⟩, .inr ⟨"inbox".toList, rfl⟩⟩

/-- A server that describes its only message. -/
def talkative : SameAnswer where
  answer := (ListingReply.list .blank [talkativeScan]).answer

/-- A conforming listing is rejected as one that does not conform. -/
theorem exists_conforming_rejected :
    ¬∀ (client : Pop3Client SameAnswer) (dialogue : Dialogue SameAnswer),
      InSync calm client dialogue → ∀ reply : ListingReply,
        (dialogue.ask reply.command).1 = reply.answer →
        returned (@Call.run _ _ emptyDigest reply.call client) = .ok reply.value := by
  intro always
  have accepted := always (.idle talkative [] false) _ (inSync_idle (by simp) talkative false)
    (.list ⟨[], by decide, by decide⟩ [talkativeScan]) rfl
  have rejected : returned (@Call.run _ _ emptyDigest (.list none)
      (Pop3Client.idle talkative [] false)) =
        .error (.parse "LIST: unexpected extra fields: 1 120 inbox".toList) := by
    decide +kernel
  cases rejected.symm.trans accepted

theorem accepted_iff_scansEndWithSize_talkative :
    returned (@Call.run _ _ emptyDigest
        (ListingReply.list ⟨[], by decide, by decide⟩ [talkativeScan]).call
        (Pop3Client.idle talkative [] false)) =
      .ok (ListingReply.list ⟨[], by decide, by decide⟩ [talkativeScan]).value ↔
    (ListingReply.list ⟨[], by decide, by decide⟩ [talkativeScan]).ScansEndWithSize :=
  @accepted_iff_scansEndWithSize _ _ _ _ emptyDigest (inSync_idle (by simp) talkative false)
    (.list ⟨[], by decide, by decide⟩ [talkativeScan]) rfl

end Pop3
