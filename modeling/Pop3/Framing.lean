import Pop3.Rust.Utf8

/-!
# Lines on the wire

Replies travel as lines that end with CRLF.  A body ends with a line that is a
single dot; a line of the body that starts with a dot is sent with a second one
in front.  A line may have a CR or a LF of its own, as long as they do not make a
CRLF.
-/

namespace Framing

open Rust

/-- CR and LF. -/
def crlf : Str := "\r\n".toList

/-- The line that ends a body. -/
def terminator : Str := ".\r\n".toList

/-- Text without CR and LF. -/
structure Line where
  text : Str
  noReturn : '\r' ∉ text
  noFeed : '\n' ∉ text
  deriving DecidableEq

/-- The line without text. -/
def Line.blank : Line := ⟨[], by decide, by decide⟩

/-- Octets without CRLF. -/
structure OctetLine where
  octets : List UInt8
  noCrlf : ¬[13, 10] <:+: octets
  deriving DecidableEq

namespace OctetLine

/-- The line has neither CR nor LF. -/
def IsPlain (line : OctetLine) : Prop := 13 ∉ line.octets ∧ 10 ∉ line.octets

instance (line : OctetLine) : Decidable line.IsPlain :=
  inferInstanceAs (Decidable (_ ∧ _))

/-- Behind a bare LF, the line has a single dot: it contains LF `.` LF, or ends with
LF `.`. -/
def Forges (line : OctetLine) : Prop := [46] ∈ (line.octets.splitOn 10).tail

instance (line : OctetLine) : Decidable line.Forges :=
  inferInstanceAs (Decidable (_ ∈ _))

end OctetLine

/-- Without LF there is no CRLF. -/
theorem noCrlf_of_noFeed
    {octets : List UInt8}
    (noFeed : 10 ∉ octets) :
    ¬[13, 10] <:+: octets :=
  fun inside => noFeed (inside.subset (by simp))

/-- A line of text as octets. -/
def Line.encode (line : Line) : OctetLine where
  octets := utf8 line.text
  noCrlf := noCrlf_of_noFeed (by simp [line.noFeed])

theorem Line.isPlain_encode (line : Line) : line.encode.IsPlain := by
  simp [OctetLine.IsPlain, encode, line.noReturn, line.noFeed]

/-- Double a leading dot. -/
def stuff : Str → Str
  | '.' :: rest => '.' :: '.' :: rest
  | line => line

/-- Double a leading dot. -/
def stuffOctets : List UInt8 → List UInt8
  | 46 :: rest => 46 :: 46 :: rest
  | octets => octets

/-- The lines of a body without its end. -/
def encodeLines (lines : List OctetLine) : List UInt8 :=
  lines.flatMap fun line => stuffOctets line.octets ++ [13, 10]

/-- A body with its end. -/
def encodeBody (lines : List OctetLine) : List UInt8 :=
  encodeLines lines ++ utf8 terminator

/-- Lines of text, each ended by LF, as a receiver joins them. -/
def joined (lines : List Str) : Str := lines.flatMap (· ++ ['\n'])

/-- Lines are read back from their data. -/
theorem lines_joined (texts : List Line) :
    lines (joined (texts.map Line.text)) = texts.map Line.text := by
  apply lines_flatMap
  · intro piece member
    obtain ⟨text, _, rfl⟩ := List.mem_map.mp member
    exact text.noFeed
  · intro piece member
    obtain ⟨text, _, rfl⟩ := List.mem_map.mp member
    exact text.noReturn

/-- Lines that are not empty are the lines of their listing. -/
theorem filter_lines_joined
    {rows : List α}
    {line : α → Line}
    (nonempty : ∀ row ∈ rows, (line row).text ≠ []) :
    (lines (joined ((rows.map line).map Line.text))).filter (!·.isEmpty) =
      rows.map fun row => (line row).text := by
  rw [lines_joined, List.map_map, List.filter_eq_self.mpr]
  · rfl
  · intro text member
    obtain ⟨row, inRows, rfl⟩ := List.mem_map.mp member
    simpa using nonempty row inRows

theorem stuff_eq (line : Str) :
    stuff line = line ∧ line.head? ≠ some '.' ∨
      ∃ rest, line = '.' :: rest ∧ stuff line = '.' :: '.' :: rest := by
  unfold stuff
  split
  · exact .inr ⟨_, rfl, rfl⟩
  · rename_i other
    left
    refine ⟨rfl, ?_⟩
    cases line with
    | nil => simp
    | cons head tail =>
        intro dotted
        simp only [List.head?_cons, Option.some.injEq] at dotted
        subst dotted
        exact other tail rfl

/-- No stuffed line is a single dot. -/
theorem stuff_ne_dot (line : Str) : stuff line ≠ ['.'] := by
  rcases stuff_eq line with ⟨same, noDot⟩ | ⟨rest, rfl, dotted⟩
  · rw [same]
    rintro rfl
    exact noDot rfl
  · rw [dotted]
    simp

theorem mem_stuff {line : Str} {character : Char} (noDot : character ≠ '.') :
    character ∈ stuff line ↔ character ∈ line := by
  rcases stuff_eq line with ⟨same, _⟩ | ⟨rest, rfl, dotted⟩
  · rw [same]
  · rw [dotted]
    simp [noDot]

/-- Stuffing text is stuffing its octets. -/
theorem utf8_stuff (line : Str) : utf8 (stuff line) = stuffOctets (utf8 line) := by
  rcases stuff_eq line with ⟨same, noDot⟩ | ⟨rest, rfl, dotted⟩
  · rw [same]
    cases line with
    | nil => rfl
    | cons head tail =>
        unfold stuffOctets
        split
        · rename_i octets first
          have dot : head = '.' :=
            eq_of_utf8_head (by decide) ((List.append_nil _).trans first)
          exact absurd (congrArg some dot) noDot
        · rfl
  · have dot : String.utf8EncodeChar '.' = [46] := by decide
    rw [dotted]
    simp [dot, stuffOctets]

end Framing
