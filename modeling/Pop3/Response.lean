import Pop3.Error
import Pop3.Types
import Pop3.Rust.Utf8

/-!
# Response parsing

Status lines, drop listings, scan listings, unique-id listings and capability
lists.
-/

namespace Pop3

open Rust

/-- `Option::ok_or`. -/
def okOr (value : Option α) (error : ε) : Except ε α :=
  match value with
  | some value => .ok value
  | none => .error error

/-- `str::parse::<u32>`. -/
def parseU32 (text : Str) : Option UInt32 :=
  (parseUnsigned UInt32.size text).map UInt32.ofNat

/-- `str::parse::<u64>`. -/
def parseU64 (text : Str) : Option UInt64 :=
  (parseUnsigned UInt64.size text).map UInt64.ofNat

/-! ## Status lines -/

/-- Map the text of a `-ERR` response with an optional response code in
brackets to a typed error. -/
def parseRespCode (text : Str) : Pop3Error :=
  match stripPrefix "[".toList text with
  | none => .serverError text
  | some inner =>
      match found : find ']' inner with
      | none => .serverError text
      | some close =>
          let code := sliceTo inner close (isCharBoundary_of_find found)
          let rest := trimStart
            (sliceFrom inner (close + 1) (isCharBoundary_succ_of_find rfl found))
          if code = "IN-USE".toList then .mailboxInUse rest
          else if code = "LOGIN-DELAY".toList then .loginDelay rest
          else if code = "SYS/TEMP".toList then .sysTemp rest
          else if code = "SYS/PERM".toList then .sysPerm rest
          else if code = "AUTH".toList then .authFailed rest
          else .serverError text

/-- The line starts with the keyword, and is the keyword alone or has an ASCII
whitespace byte behind it. -/
def hasKeyword (keyword line : Str) : Bool :=
  if isPrefix : keyword <+: line then
    if whole : byteLength line = byteLength keyword then true
    else
      isAsciiWhitespace ((utf8 line).get ⟨byteLength keyword, by
        obtain ⟨rest, rfl⟩ := isPrefix
        have shorter : byteLength keyword ≤ byteLength (keyword ++ rest) := by simp
        exact lt_of_le_of_ne shorter (Ne.symm whole)⟩)
  else false

theorem prefix_of_hasKeyword
    {keyword line : Str}
    (has : hasKeyword keyword line = true) :
    keyword <+: line := by
  unfold hasKeyword at has
  split at has
  · assumption
  · contradiction

/-- Parse a status line, returning the text after `+OK` or an error. -/
def parseStatusLine (line : Str) : Except Pop3Error Str :=
  let line := trimEndMatches "\n".toList (trimEndMatches "\r\n".toList line)
  if positive : hasKeyword "+OK".toList line = true then
    .ok (trimStart (sliceFrom line (byteLength "+OK".toList)
      (isCharBoundary_after (prefix_of_hasKeyword positive))))
  else if negative : hasKeyword "-ERR".toList line = true then
    let text := trimStart (sliceFrom line (byteLength "-ERR".toList)
      (isCharBoundary_after (prefix_of_hasKeyword negative)))
    .error (parseRespCode text)
  else .error (.parse ("unexpected response: ".toList ++ line))

/-- A positive status line starts with `+OK`. -/
theorem prefix_of_parseStatusLine
    {line text : Str}
    (positive : parseStatusLine line = .ok text) :
    "+OK".toList <+: line := by
  unfold parseStatusLine at positive
  dsimp only at positive
  split at positive
  · rename_i has
    exact (prefix_of_hasKeyword has).trans
      ((trimEndMatches_begins _ _).trans (trimEndMatches_begins _ _))
  · split at positive <;> cases positive

/-! ## Listings -/

/-- Parse the response to `STAT`. -/
def parseStat (statusText : Str) : Except Pop3Error Stat := do
  let parts := splitWhitespace statusText
  let countStr ← okOr parts[0]? (.parse "STAT: missing message count".toList)
  let sizeStr ← okOr parts[1]? (.parse "STAT: missing mailbox size".toList)
  let messageCount ← okOr (parseU32 countStr)
    (.parse ("STAT: invalid message count: ".toList ++ countStr))
  let mailboxSize ← okOr (parseU64 sizeStr)
    (.parse ("STAT: invalid mailbox size: ".toList ++ sizeStr))
  return { messageCount, mailboxSize }

/-- Parse one `LIST` entry such as `1 1234`. -/
def parseListEntry (line : Str) : Except Pop3Error ListEntry := do
  let line := trim line
  let parts := splitWhitespace line
  let idStr ← okOr parts[0]? (.parse "LIST: missing message id".toList)
  let sizeStr ← okOr parts[1]? (.parse "LIST: missing message size".toList)
  let messageId ← okOr (parseU32 idStr)
    (.parse ("LIST: invalid message id: ".toList ++ idStr))
  let size ← okOr (parseU64 sizeStr)
    (.parse ("LIST: invalid message size: ".toList ++ sizeStr))
  if parts[2]?.isSome then
    throw (.parse ("LIST: unexpected extra fields: ".toList ++ line))
  return { messageId, size }

/-- Parse the body of a multi-line `LIST` response. -/
def parseListMulti (body : Str) : Except Pop3Error (List ListEntry) :=
  ((lines body).filter (!·.isEmpty)).mapM parseListEntry

/-- Parse a single-message `LIST` response. -/
def parseListSingle (statusText : Str) : Except Pop3Error ListEntry :=
  parseListEntry statusText

/-- Parse one `UIDL` entry such as `1 abc123`. -/
def parseUidlEntry (line : Str) : Except Pop3Error UidlEntry := do
  let line := trim line
  let parts := splitWhitespace line
  let idStr ← okOr parts[0]? (.parse "UIDL: missing message id".toList)
  let uniqueId ← okOr parts[1]? (.parse "UIDL: missing unique id".toList)
  let messageId ← okOr (parseU32 idStr)
    (.parse ("UIDL: invalid message id: ".toList ++ idStr))
  if parts[2]?.isSome then
    throw (.parse ("UIDL: unexpected extra fields: ".toList ++ line))
  return { messageId, uniqueId }

/-- Parse the body of a multi-line `UIDL` response. -/
def parseUidlMulti (body : Str) : Except Pop3Error (List UidlEntry) :=
  ((lines body).filter (!·.isEmpty)).mapM parseUidlEntry

/-- Parse a single-message `UIDL` response. -/
def parseUidlSingle (statusText : Str) : Except Pop3Error UidlEntry :=
  parseUidlEntry statusText

/-- Parse the body of a `CAPA` response. -/
def parseCapa (body : Str) : List Capability :=
  (((lines body).map trim).filter (!·.isEmpty)).map fun line =>
    let parts := splitWhitespace line
    { name := parts[0]?.getD [], arguments := parts.drop 1 }

end Pop3
