import Pop3.Dialogue
import Pop3.Mailbox.Model

/-!
# A server of a mailbox

The protocol in front of a mailbox: how a request is written as a command line
and read from it, and how what the mailbox grants is written as an answer.
-/

namespace Pop3

open Rust Framing

/-! ## Requests -/

/-- What can be requested of a mailbox. -/
inductive Request
  | stat
  | list (messageId : Option UInt32)
  | uidl (messageId : Option UInt32)
  | retr (messageId : UInt32)
  | top (messageId lines : UInt32)
  | dele (messageId : UInt32)
  | rset
  | noop
  deriving DecidableEq

namespace Request

/-- The command line of a request. -/
def command : Request → Str
  | stat => "STAT".toList
  | list none => "LIST".toList
  | list (some messageId) => commandFor "LIST ".toList messageId
  | uidl none => "UIDL".toList
  | uidl (some messageId) => commandFor "UIDL ".toList messageId
  | retr messageId => commandFor "RETR ".toList messageId
  | top messageId lines =>
      commandFor "TOP ".toList messageId ++ " ".toList ++ decimal lines.toNat
  | dele messageId => commandFor "DELE ".toList messageId
  | rset => "RSET".toList
  | noop => "NOOP".toList

/-- The request that a keyword and its arguments stand for. -/
def ofWords (keyword : Str) : List UInt32 → Option Request
  | [] =>
      if keyword = "STAT".toList then some stat
      else if keyword = "LIST".toList then some (list none)
      else if keyword = "UIDL".toList then some (uidl none)
      else if keyword = "RSET".toList then some rset
      else if keyword = "NOOP".toList then some noop
      else none
  | [messageId] =>
      if keyword = "LIST".toList then some (list (some messageId))
      else if keyword = "UIDL".toList then some (uidl (some messageId))
      else if keyword = "RETR".toList then some (retr messageId)
      else if keyword = "DELE".toList then some (dele messageId)
      else none
  | [messageId, lines] =>
      if keyword = "TOP".toList then some (top messageId lines) else none
  | _ => none

/-- Read a command line. -/
def parse (command : List UInt8) : Option Request := do
  let text ← fromUtf8 command
  let words := splitWhitespace text
  let arguments ← words.tail.mapM parseU32
  ofWords (words.headD []) arguments

end Request

theorem parseU32_decimal {value : Nat} (fits : value < UInt32.size) :
    parseU32 (decimal value) = some (UInt32.ofNat value) := by
  rw [parseU32, parseUnsigned_decimal fits]
  rfl

theorem parseU32_toNat (value : UInt32) : parseU32 (decimal value.toNat) = some value := by
  rw [parseU32_decimal value.toNat_lt, UInt32.ofNat_toNat]

theorem parseU64_decimal {value : Nat} (fits : value < UInt64.size) :
    parseU64 (decimal value) = some (UInt64.ofNat value) := by
  rw [parseU64, parseUnsigned_decimal fits]
  rfl

/-- A keyword is cut off in front of its arguments. -/
theorem splitWhitespace_keyword
    {keyword : Str}
    (isToken : IsToken keyword)
    (rest : Str) :
    splitWhitespace (keyword ++ ' ' :: rest) = keyword :: splitWhitespace rest :=
  splitWhitespace_token_append isToken (by decide) rest

instance (text : Str) : Decidable (IsToken text) :=
  decidable_of_iff (text ≠ [] ∧ text.all (fun character => !isWhitespace character) = true)
    ⟨fun ⟨nonempty, solid⟩ => ⟨nonempty, by simpa using solid⟩,
      fun isToken => ⟨isToken.nonempty, by simpa using isToken.solid⟩⟩

namespace Request

theorem parse_words
    {text keyword : Str}
    {arguments : List UInt32}
    (words : splitWhitespace text =
      keyword :: arguments.map fun argument => decimal argument.toNat) :
    parse (utf8 text) = ofWords keyword arguments := by
  have numbers : (arguments.map fun argument => decimal argument.toNat).mapM parseU32 =
      some arguments := by
    rw [List.mapM_map]
    have each : (parseU32 ∘ fun argument : UInt32 => decimal argument.toNat) = some :=
      funext parseU32_toNat
    rw [each]
    exact List.mapM_pure.trans (congrArg some (List.map_id _))
  simp only [parse, fromUtf8_utf8, words, Option.bind_eq_bind, Option.bind_some,
    List.tail_cons, List.headD_cons, numbers]

theorem parse_keyword (keyword : Str) (isToken : IsToken keyword) :
    parse (utf8 keyword) = ofWords keyword [] :=
  parse_words (splitWhitespace_token isToken)

theorem parse_commandFor
    (keyword : Str)
    (isToken : IsToken keyword)
    (messageId : UInt32) :
    parse (utf8 (commandFor (keyword ++ [' ']) messageId)) = ofWords keyword [messageId] := by
  apply parse_words
  rw [commandFor, List.append_assoc, List.singleton_append,
    splitWhitespace_keyword isToken, splitWhitespace_token (isToken_decimal _)]
  rfl

theorem parse_top (messageId lines : UInt32) :
    parse (utf8 (top messageId lines).command) = ofWords "TOP".toList [messageId, lines] := by
  have regroup : (top messageId lines).command =
      "TOP".toList ++ ' ' :: (decimal messageId.toNat ++ ' ' :: decimal lines.toNat) := by
    simp [command, commandFor]
  apply parse_words
  rw [regroup, splitWhitespace_keyword (by decide),
    splitWhitespace_keyword (isToken_decimal _), splitWhitespace_token (isToken_decimal _)]
  rfl

/-- A server reads the request that its client has written. -/
theorem parse_command (request : Request) : parse (utf8 request.command) = some request := by
  cases request with
  | stat => exact parse_keyword "STAT".toList (by decide)
  | list messageId =>
      cases messageId with
      | none => exact parse_keyword "LIST".toList (by decide)
      | some messageId => exact parse_commandFor "LIST".toList (by decide) messageId
  | uidl messageId =>
      cases messageId with
      | none => exact parse_keyword "UIDL".toList (by decide)
      | some messageId => exact parse_commandFor "UIDL".toList (by decide) messageId
  | retr messageId => exact parse_commandFor "RETR".toList (by decide) messageId
  | top messageId lines => exact parse_top messageId lines
  | dele messageId => exact parse_commandFor "DELE".toList (by decide) messageId
  | rset => exact parse_keyword "RSET".toList (by decide)
  | noop => exact parse_keyword "NOOP".toList (by decide)

end Request

/-! ## Answers -/

/-- A number as a line. -/
def numberLine (value : Nat) : Line where
  text := decimal value
  noReturn := not_mem_decimal (by decide) value
  noFeed := not_mem_decimal (by decide) value

/-- Two lines as the fields of one. -/
def fields (left right : Line) : Line where
  text := left.text ++ ' ' :: right.text
  noReturn := by simp [left.noReturn, right.noReturn]
  noFeed := by simp [left.noFeed, right.noFeed]

theorem IsUniqueId.not_mem
    {text : Str}
    (isUniqueId : IsUniqueId text)
    {control : Char}
    (low : control.toNat < 33) :
    control ∉ text := by
  intro member
  have printable := isUniqueId.printable control member
  omega

/-- A unique id as a line. -/
def Mail.uidLine (mail : Mail) : Line where
  text := mail.uniqueId
  noReturn := mail.isUniqueId.not_mem (by decide)
  noFeed := mail.isUniqueId.not_mem (by decide)

namespace Mailbox

/-- One line of a scan listing. -/
def scanLine (messageId : UInt32) (mail : Mail) : Line :=
  fields (numberLine messageId.toNat) (numberLine mail.size)

/-- One line of a unique-id listing. -/
def uidlLine (messageId : UInt32) (mail : Mail) : Line :=
  fields (numberLine messageId.toNat) mail.uidLine

/-- The drop listing, with or without further information behind it. -/
def dropLine (mailbox : Mailbox) (further : Line) : Line :=
  let numbers := fields (numberLine mailbox.present.length) (numberLine mailbox.totalSize)
  if further.text = [] then numbers else fields numbers further

/-- What a mailbox grants on a request: the text of the status line, and the
body. -/
def grant (mailbox : Mailbox) (text : Line) : Request → Option (Line × List Line)
  | .stat => some (mailbox.dropLine text, [])
  | .list none => some (text, mailbox.present.map fun (messageId, mail) =>
      scanLine messageId mail)
  | .list (some messageId) => (mailbox.find messageId).map fun mail =>
      (scanLine messageId mail, [])
  | .uidl none => some (text, mailbox.present.map fun (messageId, mail) =>
      uidlLine messageId mail)
  | .uidl (some messageId) => (mailbox.find messageId).map fun mail =>
      (uidlLine messageId mail, [])
  | .retr messageId => (mailbox.find messageId).map fun mail => (text, mail.lines)
  | .top messageId lines => (mailbox.find messageId).map fun mail =>
      (text, topLines lines.toNat mail.lines)
  | .dele messageId => (mailbox.find messageId).map fun _ => (text, [])
  | .rset | .noop => some (text, [])

/-- What becomes of a mailbox on a request that it grants. -/
def after : Request → Mailbox → Mailbox
  | .dele messageId => mark messageId
  | .rset => unmark
  | _ => id

end Mailbox

/-- A positive answer. -/
def Answer.granting (text : Line) (body : List Line) : Answer where
  isPositive := true
  text
  body := body.map Line.encode

/-- A negative answer. -/
def Answer.refusing (text : Line) : Answer where
  isPositive := false
  text
  body := []

namespace MailServer

/-- What the server grants on a command line, and the mailbox afterwards. -/
def granted (server : MailServer) (command : List UInt8) :
    Option ((Line × List Line) × Mailbox) :=
  match Request.parse command with
  | none => none
  | some request =>
      (if server.choice.refuses then none
        else server.mailbox.grant server.choice.positive request).map
          fun given => (given, Mailbox.after request server.mailbox)

instance : AnsweringServer MailServer where
  answer server command :=
    match server.granted command with
    | some ((text, body), mailbox) => (server.next mailbox, .granting text body)
    | none => (server.next server.mailbox, .refusing server.choice.negative)

end MailServer

end Pop3
